import LuminaRail.Model.Endings
import LuminaRail.Services.PaymentProviders
import LuminaRail.Services.Refunds

/-! The operations of providers and locks, which leave the database alone. -/

namespace LuminaRail

open Concurrency Database Service

section

variable {t : Tid} {s : Snapshot} {α : Type}

theorem stays_get (config : Config) (providerId : String)
    : Stays t s (PaymentProviderRegistry.get config providerId) := by
  unfold PaymentProviderRegistry.get
  split
  · exact Stays.pure _
  · exact Stays.throw _

/-- Asking a provider about a payment leaves the database alone. -/
theorem stays_providerVerifyPayment (config : Config) (id : String) (params : VerifyParams)
    (provider : Provider)
    : Stays t s (provider.verifyPayment config id params) := by
  refine Stays.bind ?_ fun response => Stays.bind stays_emit fun _ => Stays.pure _
  cases provider with
  | MOCK =>
      change Stays t s (verifyMockPayment id)
      exact stays_onMock
  | NGN_BANK_TRANSFER =>
      change Stays t s (verifyNgnPayment id params)
      exact stays_onNgn
  | PAYSTACK_NGN_BANK_TRANSFER =>
      exact Stays.bind (Stays.bind stays_throwIf fun _ => stays_external) fun _ => Stays.pure _

theorem stays_sandboxRefund (texts : SandboxTexts) (request : CreateRefundRequest)
    : Stays t s (sandboxRefund texts request) := by
  refine Stays.bind stays_now fun time => Stays.bind stays_randomText fun suffix => ?_
  split
  · exact Stays.pure _
  · split
    · exact Stays.pure _
    · exact Stays.pure _

theorem stays_paystackRefund (config : Config) (request : CreateRefundRequest)
    : Stays t s (paystackRefund config request) := by
  refine Stays.bind stays_throwIf fun _ => Stays.tryCatch ?_ fun error => ?_
  · exact Stays.bind (Stays.bind stays_throwIf fun _ => stays_external) fun _ => Stays.pure _
  · split
    · refine Stays.bind stays_now fun time => ?_
      split
      · exact Stays.pure _
      · exact Stays.pure _
    · exact Stays.throw error

theorem stays_providerRefund (config : Config) (provider : Provider) (request : CreateRefundRequest)
    : Stays t s (provider.refund config request) := by
  cases provider with
  | PAYSTACK_NGN_BANK_TRANSFER => exact stays_paystackRefund config request
  | MOCK => exact stays_sandboxRefund _ request
  | NGN_BANK_TRANSFER => exact stays_sandboxRefund _ request

/-- Asking a provider to carry out a refund leaves the database alone. -/
theorem stays_processRefund (config : Config) (provider : Provider) (request : CreateRefundRequest)
    : Stays t s (provider.processRefund config request) := by
  refine Stays.bind stays_emit fun _ => ?_
  exact Stays.bind (stays_providerRefund config provider request) fun _ =>
    Stays.bind stays_emit fun _ => Stays.pure _

theorem stays_acquire (config : Config) (key : String)
    : Stays t s (DistributedLockService.acquire config key) := by
  refine stays_act fun acted => ?_
  split at acted
  · split at acted
    · split at acted
      · obtain ⟨_, rfl⟩ := Prod.mk.inj (Option.some.inj acted)
        rfl
      · obtain ⟨_, rfl⟩ := Prod.mk.inj (Option.some.inj acted)
        rfl
    · split at acted
      · obtain ⟨_, rfl⟩ := Prod.mk.inj (Option.some.inj acted)
        rfl
      · obtain ⟨_, rfl⟩ := Prod.mk.inj (Option.some.inj acted)
        rfl
  · obtain ⟨_, rfl⟩ := Prod.mk.inj (Option.some.inj acted)
    rfl

theorem stays_throwIfLost (lock : Option DistributedLock) (error : AppError)
    : Stays t s (DistributedLock.throwIfLost lock error) := by
  cases lock with
  | none => exact Stays.pure ()
  | some lock =>
      refine Stays.bind (stays_act fun acted => ?_) fun owned => stays_throwIf
      obtain ⟨_, rfl⟩ := Prod.mk.inj (Option.some.inj acted)
      rfl

theorem stays_release (lock : Option DistributedLock)
    : Stays t s (DistributedLock.release lock) := by
  cases lock with
  | none => exact Stays.pure ()
  | some lock =>
      refine Stays.bind (stays_act fun acted => ?_) fun _ => Stays.pure ()
      split at acted
      · obtain ⟨_, rfl⟩ := Prod.mk.inj (Option.some.inj acted)
        rfl
      · split at acted
        · obtain ⟨_, rfl⟩ := Prod.mk.inj (Option.some.inj acted)
          rfl
        · obtain ⟨_, rfl⟩ := Prod.mk.inj (Option.some.inj acted)
          rfl

/-- Releasing a lock never fails. -/
theorem ends_release (lock : Option DistributedLock)
    : Ends t s (DistributedLock.release lock) (fun _ last => last = s) fun _ _ => False := by
  cases lock with
  | none => exact Ends.pure rfl
  | some lock =>
      refine Ends.bind (R := fun _ last => last = s) (Ends.act fun acted => ?_) fun _ _ same =>
        Ends.pure same
      split at acted
      · obtain ⟨rfl, rfl⟩ := Prod.mk.inj (Option.some.inj acted)
        exact ⟨rfl, _, rfl⟩
      · split at acted
        · obtain ⟨rfl, rfl⟩ := Prod.mk.inj (Option.some.inj acted)
          exact ⟨rfl, _, rfl⟩
        · obtain ⟨rfl, rfl⟩ := Prod.mk.inj (Option.some.inj acted)
          exact ⟨rfl, _, rfl⟩

end

end LuminaRail
