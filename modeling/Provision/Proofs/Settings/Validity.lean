import Provision.Settings

/-!
What the rules of settings let pass. The delay between attempts is judged by the milliseconds that
are kept of it, so a delay that does not fit into their 64 bits can pass as a shorter one; any other
passes just if it is short enough, and then all of its milliseconds are kept.
-/
namespace Provision.Settings

variable {settings : Settings}

theorem violations_eq_nil_iff :
    settings.violations = [] ↔ ∀ rule ∈ settings.rules, rule.2.1 = true := by
  rw [violations, List.filterMap_eq_nil_iff]
  constructor
  · intro kept rule member
    have same := kept rule member
    cases holds : rule.2.1 with
    | true => rfl
    | false => simp [holds] at same
  · intro kept rule member
    simp [kept rule member]

/-- Settings are valid if every rule is kept and there is a version. -/
theorem validate_eq_ok_iff :
    settings.validate = .ok () ↔
      settings.violations = [] ∧ (Text.trim settings.apiVersion.toList).isEmpty = false := by
  rw [validate]
  cases settings.violations with
  | nil => cases (Text.trim settings.apiVersion.toList).isEmpty <;> simp
  | cons violation others => simp

theorem isOk_of_validate (valid : settings.validate = .ok ()) :
    (Url.ofString settings.baseUrl).isOk = true := by
  have kept := violations_eq_nil_iff.mp (validate_eq_ok_iff.mp valid).1
  exact kept (_, (Url.ofString settings.baseUrl).isOk, .url) List.mem_cons_self

/-- Whether settings are valid with another delay, if not with their own. -/
def IsValidButDelay (settings : Settings) : Prop :=
  { settings with retryDelayMs := 0 }.validate = .ok ()

theorem validate_eq_ok_iff_delay :
    settings.validate = .ok () ↔
      settings.IsValidButDelay ∧ settings.retryDelayMs.toNat ≤ 60000 := by
  simp only [IsValidButDelay, validate_eq_ok_iff, violations_eq_nil_iff, rules,
    List.forall_mem_cons, List.not_mem_nil, false_implies, implies_true, and_true,
    Bool.and_eq_true, decide_eq_true_eq]
  constructor
  · rintro ⟨⟨url, retries, interval, timeout, -, short⟩, version⟩
    exact ⟨⟨⟨url, retries, interval, timeout, by decide⟩, version⟩, short⟩
  · rintro ⟨⟨⟨url, retries, interval, timeout, -⟩, version⟩, short⟩
    exact ⟨⟨url, retries, interval, timeout, Nat.zero_le _, short⟩, version⟩

section Delay

variable (settings) (delay : Duration)

theorem toNat_retryDelayMs_withRetryDelay :
    (settings.withRetryDelay delay).retryDelayMs.toNat = delay.milliseconds % UInt64.size :=
  UInt64.toNat_ofNat'

theorem nanoseconds_retryDelay_withRetryDelay :
    (settings.withRetryDelay delay).retryDelay.nanoseconds =
      delay.milliseconds % UInt64.size * 1000000 := by
  have kept := settings.toNat_retryDelayMs_withRetryDelay delay
  exact congrArg (· * 1000000) kept

variable {settings}

theorem validate_withRetryDelay_eq_ok_iff (valid : settings.IsValidButDelay) :
    (settings.withRetryDelay delay).validate = .ok () ↔
      delay.milliseconds % UInt64.size ≤ 60000 := by
  have same : (settings.withRetryDelay delay).IsValidButDelay := by
    simpa only [IsValidButDelay, withRetryDelay] using valid
  rw [validate_eq_ok_iff_delay, toNat_retryDelayMs_withRetryDelay, and_iff_right same]

/-- How settings ought to take a delay: they are valid with it if it has not reached the next
millisecond after a minute, and then it is kept down to the millisecond. -/
structure KeepsDelay (settings : Settings) (delay : Duration) : Prop where
  accepts : (settings.withRetryDelay delay).validate = .ok () ↔
    delay.nanoseconds < 60001 * 1000000
  keeps : (settings.withRetryDelay delay).validate = .ok () →
    (settings.withRetryDelay delay).retryDelay.nanoseconds = delay.milliseconds * 1000000

/-- That is how they take every delay but those that are too long and pass as a shorter one. -/
theorem keepsDelay_iff (valid : settings.IsValidButDelay) :
    settings.KeepsDelay delay ↔
      delay.milliseconds < UInt64.size ∨ 60000 < delay.milliseconds % UInt64.size := by
  have accepted := validate_withRetryDelay_eq_ok_iff delay valid
  have kept := nanoseconds_retryDelay_withRetryDelay settings delay
  have short : delay.nanoseconds < 60001 * 1000000 ↔ delay.milliseconds ≤ 60000 := by
    rw [Duration.milliseconds]
    omega
  constructor
  · rintro ⟨accepts, -⟩
    rw [accepted, short] at accepts
    rcases Nat.lt_or_ge delay.milliseconds UInt64.size with fits | wraps
    · exact .inl fits
    · refine .inr (Nat.lt_of_not_le fun passes => ?_)
      have small := accepts.mp passes
      exact absurd (Nat.le_trans wraps small) (by decide)
  · rintro (fits | refused)
    · rw [Nat.mod_eq_of_lt fits] at accepted kept
      exact ⟨accepted.trans short.symm, fun _ => kept⟩
    · have invalid := mt accepted.mp (Nat.not_le.mpr refused)
      have long : ¬ delay.nanoseconds < 60001 * 1000000 := fun less =>
        Nat.not_le.mpr refused (Nat.le_trans (Nat.mod_le _ _) (short.mp less))
      exact ⟨iff_of_false invalid long, fun passes => absurd passes invalid⟩

end Delay

/-- A delay that is refused, though its milliseconds do not fit into 64 bits. -/
theorem endless_delay_refused :
    let settings : Settings := { baseUrl := "http://api/" }
    let delay : Duration := .ofSeconds 18446744073710000
    settings.IsValidButDelay ∧ 60000 < delay.milliseconds % UInt64.size ∧
      settings.KeepsDelay delay := by
  intro settings delay
  have valid : settings.IsValidButDelay := validate_eq_ok_iff.mpr (by decide +kernel)
  have refused : 60000 < delay.milliseconds % UInt64.size := by decide
  exact ⟨valid, refused, (keepsDelay_iff delay valid).mpr (.inr refused)⟩

/-- A delay of more than five hundred million years that passes as less than half a second. -/
theorem endless_delay_passes_as_short :
    let settings : Settings := { baseUrl := "http://api/" }
    let delay : Duration := .ofSeconds 18446744073709552
    settings.IsValidButDelay ∧ (settings.withRetryDelay delay).validate = .ok () ∧
      (settings.withRetryDelay delay).retryDelay = .ofMilliseconds 384 ∧
      ¬ settings.KeepsDelay delay := by
  intro settings delay
  have passes : (settings.withRetryDelay delay).validate = .ok () :=
    validate_eq_ok_iff.mpr (by decide +kernel)
  have valid : settings.IsValidButDelay := (validate_eq_ok_iff_delay.mp passes).1
  refine ⟨valid, passes, by decide, fun keeps => ?_⟩
  exact absurd (keeps.accepts.mp passes) (by decide)

end Provision.Settings
