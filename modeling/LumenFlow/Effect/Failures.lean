import LumenFlow.Kit.Failure
import LumenFlow.Model.Helper

/-!
# How the helpers fail

What the functions that every operation is built from fail with, and when.
-/

namespace LumenFlow

open Kit Contract

variable {env : Env} {world : World} {failure : Failure}

@[simp]
theorem fails_requireAuth {address : Address} :
    (requireAuth address).Fails env world failure ↔
      ¬ env.Authorised address ∧ failure = .trap := by
  simp [requireAuth]

@[simp]
theorem fails_addU32 {first second : Nat} :
    (addU32 first second).Fails env world failure ↔
      u32Max < first + second ∧ failure = .trap := by
  simp [addU32]

@[simp]
theorem fails_addI128 {first second : Int} :
    (addI128 first second).Fails env world failure ↔
      ¬ InI128 (first + second) ∧ failure = .trap := by
  simp [addI128]

@[simp]
theorem fails_addU64 {first second : Nat} :
    (addU64 first second).Fails env world failure ↔
      u64Max < first + second ∧ failure = .trap := by
  simp [addU64]

@[simp]
theorem fails_requireNotPaused :
    requireNotPaused.Fails env world failure ↔
      world.gov.paused = true ∧ failure = .error .contractPaused := by
  simp [requireNotPaused]

@[simp]
theorem fails_requirePositive {amount : Int} :
    (requirePositive amount).Fails env world failure ↔
      ¬ 0 < amount ∧ failure = .error .invalidAmount := by
  simp [requirePositive]

@[simp]
theorem fails_requireMinRefundAmount {amount : Int} :
    (requireMinRefundAmount amount).Fails env world failure ↔
      ¬ world.getMinRefundAmount ≤ amount ∧ failure = .error .refundBelowMinimum := by
  simp [requireMinRefundAmount]

theorem fails_requireValidId {id : Text} (failed : (requireValidId id).Fails env world failure) :
    ¬ ValidId id ∧ (failure = .error .invalidOrderId ∨ failure = .error .orderIdTooLong) := by
  simp [requireValidId] at failed
  unfold ValidId
  rcases failed with ⟨rfl, rfl⟩ | ⟨_, long, rfl⟩
  · exact ⟨by simp, .inl rfl⟩
  · exact ⟨by omega, .inr rfl⟩

@[simp]
theorem fails_sequence : Contract.sequence.Fails env world failure ↔ False := by
  simp [Contract.sequence]

@[simp]
theorem fails_timestamp : Contract.timestamp.Fails env world failure ↔ False := by
  simp [Contract.timestamp]

end LumenFlow
