import LuminaRail.Model.Endings
import LuminaRail.Services.Liquidity

/-! How the liquidity transactions end that follow the verdict on a payment, run alone. -/

namespace LuminaRail

open Concurrency Database Service LiquidityService

/-- The rows that a liquidity transaction may change. -/
def Key.ofLiquidity : Key → Prop
  | .liquidityPool _ | .liquidityReservation _ | .treasuryTransaction _ => True
  | _ => False

/-- The rows after a change of the liquidity. -/
def LiquidityChanged (before after : AList Row) : Prop :=
  Agree (fun key => ¬key.ofLiquidity) before after

theorem LiquidityChanged.refl (rows : AList Row) : LiquidityChanged rows rows := fun _ _ => rfl

theorem LiquidityChanged.insert {before after : AList Row} {key : Key} {row : Row key}
    (changed : LiquidityChanged before after) (ofLiquidity : key.ofLiquidity)
    : LiquidityChanged before (after.insert key row) := by
  intro other apart
  have different : other ≠ key := by
    rintro rfl
    exact apart ofLiquidity
  rw [AList.lookup_insert_ne different, changed other apart]

/-- The reservation cannot be confirmed any more, or not again. -/
def ConfirmationDone (orderId : Id) (rows : AList Row) : Prop :=
  ∀ reservation : LiquidityReservation,
    rows.lookup (.liquidityReservation orderId) = some reservation → reservation.status ≠ .RESERVED

/-- The reservation cannot be released any more, or not again. -/
def ReleaseDone (orderId : Id) (rows : AList Row) : Prop :=
  ∀ reservation : LiquidityReservation,
    rows.lookup (.liquidityReservation orderId) = some reservation
      → reservation.status ≠ .RESERVED ∧ reservation.status ≠ .CONFIRMED

/-- The pool of the reservation is there. -/
def Pooled (orderId : Id) (rows : AList Row) : Prop :=
  ∀ reservation : LiquidityReservation,
    rows.lookup (.liquidityReservation orderId) = some reservation
      → (rows.lookup (.liquidityPool reservation.poolId)).isSome

section

variable {t : Tid} {s : Snapshot}

theorem ends_confirmReservation (orderId : Id)
    : Ends t s (confirmReservation orderId)
        (fun _ last => last.pending = s.pending ∧ LiquidityChanged s.committed last.committed
          ∧ (ConfirmationDone orderId s.committed → last.committed = s.committed))
        fun error last => last = s ∧ error.Unavailable := by
  refine Ends.drafted (W := fun _ rows => LiquidityChanged s.committed rows
    ∧ (ConfirmationDone orderId s.committed → rows = s.committed)) (fun x own => ?_)
    fun _ lost => lost
  have drafts := Drafts.begin s x
  have unchanged : ∃ rows, Drafts s x rows (s.begin x) ∧ LiquidityChanged s.committed rows
      ∧ (ConfirmationDone orderId s.committed → rows = s.committed) :=
    ⟨_, drafts, LiquidityChanged.refl _, fun _ => rfl⟩
  refine Ends.read drafts.findUnique (fun _ lost => ⟨⟨_, drafts⟩, lost⟩) fun found same => ?_
  cases found with
  | none => exact Ends.pure unchanged
  | some reservation =>
      dsimp only
      split
      · exact Ends.pure unchanged
      · split
        · exact Ends.pure unchanged
        · rename_i reserved
          refine Ends.map ((drafts.update same.symm).mono (fun _ next given => ?_)
            fun error last given => drafts.interrupted given)
          exact ⟨_, given.2, (LiquidityChanged.refl _).insert trivial,
            fun finished => absurd (not_not.mp reserved) (finished reservation same.symm)⟩

theorem ends_releaseReservation (orderId : Id) (targetStatus : LiquidityReservationStatus)
    : Ends t s (releaseReservation orderId targetStatus)
        (fun _ last => last.pending = s.pending ∧ LiquidityChanged s.committed last.committed
          ∧ (ReleaseDone orderId s.committed → last.committed = s.committed))
        fun error last => last = s ∧ (Pooled orderId s.committed → error.Unavailable) := by
  refine Ends.drafted (W := fun _ rows => LiquidityChanged s.committed rows
    ∧ (ReleaseDone orderId s.committed → rows = s.committed)) (fun x own => ?_)
    fun _ lost _ => lost
  have drafts := Drafts.begin s x
  have unchanged : ∃ rows, Drafts s x rows (s.begin x) ∧ LiquidityChanged s.committed rows
      ∧ (ReleaseDone orderId s.committed → rows = s.committed) :=
    ⟨_, drafts, LiquidityChanged.refl _, fun _ => rfl⟩
  refine Ends.read drafts.findUnique (fun _ lost => ⟨⟨_, drafts⟩, fun _ => lost⟩) fun found same => ?_
  cases found with
  | none => exact Ends.pure unchanged
  | some reservation =>
      dsimp only
      split
      · exact Ends.pure unchanged
      · rename_i unreleased
        have open_still : ¬ReleaseDone orderId s.committed := by
          intro finished
          obtain ⟨unreserved, unconfirmed⟩ := finished reservation same.symm
          revert unreserved unconfirmed unreleased
          cases reservation.status with
          | _ => simp
        refine Ends.bind (Ends.selectForUpdate.mono (fun _ _ same => same)
          fun error last given => ⟨(drafts.interrupted given).1, fun _ => given.1⟩)
          fun _ last kept => ?_
        subst kept
        rw [findUniqueOrThrow_bind]
        refine Ends.read drafts.findUnique (fun _ lost => ⟨⟨_, drafts⟩, fun _ => lost⟩)
          fun found there => ?_
        cases found with
        | none =>
            refine Ends.throw ⟨⟨_, drafts⟩, fun pooled => ?_⟩
            have pool_there := pooled reservation same.symm
            rw [← there] at pool_there
            cases pool_there
        | some pool =>
            refine Ends.bind ((drafts.update there.symm).mono (fun _ _ given => given)
              fun error last given => ⟨(drafts.interrupted given).1, fun _ => given.1⟩)
              fun _ next given => ?_
            have drafts := given.2
            have still (pool : LiquidityPool)
                : (s.committed.insert (.liquidityPool reservation.poolId) pool).lookup
                  (.liquidityReservation orderId) = some reservation :=
              (AList.lookup_insert_ne (by simp)).trans same.symm
            refine Ends.map ((drafts.update (still _)).mono (fun _ next given => ?_)
              fun error last given => ⟨(drafts.interrupted given).1, fun _ => given.1⟩)
            refine ⟨_, given.2, ?_, fun finished => absurd finished open_still⟩
            refine LiquidityChanged.insert (LiquidityChanged.insert (LiquidityChanged.refl _) ?_) ?_
            · trivial
            · trivial

end

end LuminaRail
