import Provision.Error

namespace Provision

/-- At most so many retries after the first attempt, with a constant delay before each. -/
structure RetryPolicy where
  maxRetries : UInt32
  /-- Milliseconds of an ideal clock, on which a pause takes just as long. -/
  delay : Nat
deriving DecidableEq, Repr

namespace RetryPolicy

/-- Three retries without a delay. -/
def default : RetryPolicy := ⟨3, 0⟩

def none : RetryPolicy := ⟨0, 0⟩

/-- How often a request is sent at most. The number stays within its 32 bits. -/
def maxAttempts (policy : RetryPolicy) : UInt32 :=
  if policy.maxRetries = 0xFFFFFFFF then policy.maxRetries else policy.maxRetries + 1

def hasRetries (policy : RetryPolicy) : Bool := 0 < policy.maxRetries

end RetryPolicy

/-- What is known when a request is built for another attempt. -/
structure RetryContext where
  description : String
  organizationId : String
  retryCount : UInt32
  /-- The failure of the attempt before. -/
  lastError : Option Error
  maxRetries : UInt32
deriving DecidableEq, Repr

namespace RetryContext

def first (description organizationId : String) (maxRetries : UInt32) : RetryContext :=
  { description, organizationId, retryCount := 0, lastError := none, maxRetries }

/-- The number of the attempt, from 1. -/
def attempt (context : RetryContext) : UInt32 := context.retryCount + 1

def remaining (context : RetryContext) : UInt32 :=
  if context.retryCount ≤ context.maxRetries then context.maxRetries - context.retryCount else 0

def afterFailure (context : RetryContext) (error : Error) : RetryContext :=
  { context with retryCount := context.retryCount + 1, lastError := error }

theorem toNat_attempt {context : RetryContext}
    (fits : context.retryCount.toNat + 1 < UInt32.size) :
    context.attempt.toNat = context.retryCount.toNat + 1 := by
  rw [attempt, UInt32.toNat_add, UInt32.toNat_one]
  exact Nat.mod_eq_of_lt fits

theorem toNat_remaining (context : RetryContext) :
    context.remaining.toNat = context.maxRetries.toNat - context.retryCount.toNat := by
  rw [remaining]
  split
  next within => exact UInt32.toNat_sub_of_le _ _ within
  next beyond =>
    rw [UInt32.le_iff_toNat_le] at beyond
    exact (Nat.sub_eq_zero_of_le (Nat.le_of_not_le beyond)).symm

theorem remaining_eq_zero_iff {context : RetryContext} :
    context.remaining = 0 ↔ context.maxRetries.toNat ≤ context.retryCount.toNat := by
  rw [← UInt32.toNat_inj, toNat_remaining, ← Nat.sub_eq_zero_iff_le]
  rfl

theorem toNat_retryCount_afterFailure {context : RetryContext} (left : context.remaining ≠ 0)
    (error : Error) :
    (context.afterFailure error).retryCount.toNat = context.retryCount.toNat + 1 := by
  rw [ne_eq, remaining_eq_zero_iff] at left
  have bound := UInt32.toNat_lt context.maxRetries
  rw [afterFailure, UInt32.toNat_add, UInt32.toNat_one]
  exact Nat.mod_eq_of_lt (by omega)

end RetryContext

end Provision
