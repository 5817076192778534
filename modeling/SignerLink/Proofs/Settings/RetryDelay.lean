import Mathlib.Tactic.Ring
import SignerLink.Settings.Basic
/-!
The delay before a retry. It doubles with every retry up to the greatest delay of the settings. The
factor of the doubling has a bound of its own: after the 32nd retry it no longer doubles, and where
the greatest delay is still further away, the delay stays short of it.
-/

namespace SignerLink

namespace Span

theorem ofMilliseconds_inj {left right : Nat} :
    ofMilliseconds left = ofMilliseconds right ↔ left = right := by
  simp only [ofMilliseconds, Span.mk.injEq]
  omega

theorem nanoseconds_le_iff {left right : Nat} :
    (ofMilliseconds left).nanoseconds ≤ (ofMilliseconds right).nanoseconds ↔ left ≤ right := by
  simp only [ofMilliseconds]
  omega

theorem greatest_nanoseconds : greatest.nanoseconds = 2 ^ 64 * 1000000000 - 1 := rfl

theorem ofMilliseconds_lt_greatest {milliseconds : Nat} (bounded : milliseconds < 2 ^ 64) :
    (ofMilliseconds milliseconds).nanoseconds < greatest.nanoseconds := by
  simp only [greatest_nanoseconds, ofMilliseconds]
  omega

theorem times_least {milliseconds bound : Nat} (bounded : bound < 2 ^ 64) (factor : Nat) :
    ((ofMilliseconds milliseconds).times factor).least (ofMilliseconds bound) =
      ofMilliseconds (min (milliseconds * factor) bound) := by
  have below := ofMilliseconds_lt_greatest bounded
  have product : milliseconds * 1000000 * factor = milliseconds * factor * 1000000 := by ring
  simp only [times, ofMilliseconds, product] at below ⊢
  generalize milliseconds * factor = whole
  rw [least]
  split
  next ahead =>
    simp only [Span.mk.injEq] at ahead ⊢
    omega
  next behind =>
    simp only [Span.mk.injEq] at behind ⊢
    omega

end Span

namespace AutoConnectPolicy

theorem retryFactor_eq_min (attempt : Nat) :
    retryFactor attempt = min (2 ^ attempt) (2 ^ 32 - 1) := by
  simp only [retryFactor, Nat.pow_eq]
  split
  next early =>
    have below : 2 ^ attempt ≤ 2 ^ 31 := Nat.pow_le_pow_right (by decide) (by omega)
    omega
  next late =>
    have above : 2 ^ 32 ≤ 2 ^ attempt := Nat.pow_le_pow_right (by decide) (by omega)
    omega

theorem retryDelay_eq {policy : AutoConnectPolicy} {initial greatest : Nat}
    (first : policy.initialDelay = .ofMilliseconds initial)
    (last : policy.greatestDelay = .ofMilliseconds greatest) (bounded : greatest < 2 ^ 64)
    (attempt : Nat) :
    policy.retryDelay attempt =
      .ofMilliseconds (min (initial * min (2 ^ attempt) (2 ^ 32 - 1)) greatest) := by
  rw [retryDelay, first, last, Span.times_least bounded, retryFactor_eq_min]

theorem held_factor_iff {initial : Nat} (positive : 0 < initial) (greatest attempt : Nat) :
    min (initial * min (2 ^ attempt) (2 ^ 32 - 1)) greatest =
        min (initial * 2 ^ attempt) greatest ↔
      attempt < 32 ∨ greatest ≤ initial * (2 ^ 32 - 1) := by
  by_cases early : attempt < 32
  · have below : 2 ^ attempt ≤ 2 ^ 31 := Nat.pow_le_pow_right (by decide) (by omega)
    have whole : min (2 ^ attempt) (2 ^ 32 - 1) = 2 ^ attempt := Nat.min_eq_left (by omega)
    simp only [whole, early, true_or]
  · have above : 2 ^ 32 ≤ 2 ^ attempt := Nat.pow_le_pow_right (by decide) (by omega)
    have held : min (2 ^ attempt) (2 ^ 32 - 1) = 2 ^ 32 - 1 := Nat.min_eq_right (by omega)
    have more : initial * (2 ^ 32 - 1) < initial * 2 ^ attempt :=
      Nat.mul_lt_mul_of_pos_left (by omega) positive
    rw [held]
    simp only [early, false_or]
    generalize initial * (2 ^ 32 - 1) = short at more ⊢
    generalize initial * 2 ^ attempt = long at more ⊢
    omega

end AutoConnectPolicy

namespace Settings

variable {settings : Settings} {policy : AutoConnectPolicy}

theorem policy_isOk_iff :
    (∃ policy, settings.policy = .ok policy) ↔
      0 < settings.autoConnect.retryDelay ∧
        settings.autoConnect.retryDelay ≤ settings.autoConnect.greatestRetryDelay := by
  simp only [Settings.policy]
  split
  next zero => simp [zero]
  next positive =>
    split
    next inverted => simp [Nat.not_le.mpr inverted]
    next ordered => simp [Nat.pos_of_ne_zero positive, Nat.not_lt.mp ordered]

theorem policy_delays (accepted : settings.policy = .ok policy) :
    policy.initialDelay = .ofMilliseconds settings.autoConnect.retryDelay ∧
      policy.greatestDelay = .ofMilliseconds settings.autoConnect.greatestRetryDelay := by
  simp only [Settings.policy] at accepted
  split at accepted
  next => cases accepted
  next =>
    split at accepted
    next => cases accepted
    next =>
      cases accepted
      exact ⟨rfl, rfl⟩

/-- Settings are accepted if their delays are positive and in order. Then the delay before a retry
is the first one doubled as often as there were retries, or the greatest one, exactly for the first
32 retries, or if the greatest delay is at most `2 ^ 32 - 1` times the first one. It is positive,
never decreases and never exceeds the greatest one in any case. -/
theorem retry_delay_doubles_iff (settings : Settings)
    (bounded : settings.autoConnect.greatestRetryDelay < 2 ^ 64) :
    ((∃ policy, settings.policy = .ok policy) ↔
      0 < settings.autoConnect.retryDelay ∧
        settings.autoConnect.retryDelay ≤ settings.autoConnect.greatestRetryDelay) ∧
    ∀ policy, settings.policy = .ok policy → ∀ attempt,
      policy.retryDelay attempt =
        .ofMilliseconds (min (settings.autoConnect.retryDelay * min (2 ^ attempt) (2 ^ 32 - 1))
          settings.autoConnect.greatestRetryDelay) ∧
      (policy.retryDelay attempt =
          .ofMilliseconds (min (settings.autoConnect.retryDelay * 2 ^ attempt)
            settings.autoConnect.greatestRetryDelay) ↔
        attempt < 32 ∨ settings.autoConnect.greatestRetryDelay ≤
          settings.autoConnect.retryDelay * (2 ^ 32 - 1)) ∧
      0 < (policy.retryDelay attempt).nanoseconds ∧
      (policy.retryDelay attempt).nanoseconds ≤ policy.greatestDelay.nanoseconds ∧
      ∀ later, attempt ≤ later →
        (policy.retryDelay attempt).nanoseconds ≤ (policy.retryDelay later).nanoseconds := by
  refine ⟨policy_isOk_iff, fun policy accepted attempt => ?_⟩
  obtain ⟨positive, ordered⟩ := policy_isOk_iff.mp ⟨policy, accepted⟩
  obtain ⟨first, last⟩ := policy_delays accepted
  have delay := AutoConnectPolicy.retryDelay_eq first last bounded
  refine ⟨delay attempt, ?_, ?_, ?_, fun later order => ?_⟩
  · rw [delay, Span.ofMilliseconds_inj, AutoConnectPolicy.held_factor_iff positive]
  · have scaled : 0 < min (2 ^ attempt) (2 ^ 32 - 1) :=
      Nat.lt_min.mpr ⟨Nat.two_pow_pos attempt, by decide⟩
    have product := Nat.mul_pos positive scaled
    rw [delay]
    simp only [Span.ofMilliseconds]
    omega
  · rw [delay, last, Span.nanoseconds_le_iff]
    exact Nat.min_le_right _ _
  · have doubled : 2 ^ attempt ≤ 2 ^ later := Nat.pow_le_pow_right (by decide) order
    have grows : settings.autoConnect.retryDelay * min (2 ^ attempt) (2 ^ 32 - 1) ≤
        settings.autoConnect.retryDelay * min (2 ^ later) (2 ^ 32 - 1) :=
      Nat.mul_le_mul_left _ (by omega)
    rw [delay, delay, Span.nanoseconds_le_iff]
    omega

theorem retry_delay_doubles_iff_threeSeconds :
    let settings : Settings := { autoConnect := { retryDelay := 500, greatestRetryDelay := 3000 } }
    settings.autoConnect.greatestRetryDelay < 2 ^ 64 ∧
      ∃ policy, settings.policy = .ok policy ∧
        policy.retryDelay 2 = .ofMilliseconds 2000 ∧
        policy.retryDelay 3 = .ofMilliseconds (min (500 * 2 ^ 3) 3000) ∧
        policy.retryDelay 40 = .ofMilliseconds (min (500 * 2 ^ 40) 3000) := by
  intro settings
  have bounded : settings.autoConnect.greatestRetryDelay < 2 ^ 64 := by decide
  obtain ⟨acceptance, delays⟩ := retry_delay_doubles_iff settings bounded
  obtain ⟨policy, accepted⟩ := acceptance.mpr (by decide)
  have doubles := delays policy accepted
  exact ⟨bounded, policy, accepted, (doubles 2).1.trans (by decide),
    (doubles 3).2.1.mpr (by decide), (doubles 40).2.1.mpr (by decide)⟩

theorem retry_delay_stops_doubling :
    ¬∀ (settings : Settings) (policy : AutoConnectPolicy), settings.policy = .ok policy →
      settings.autoConnect.greatestRetryDelay < 2 ^ 64 → ∀ attempt < 2 ^ 32,
        policy.retryDelay attempt =
          .ofMilliseconds (min (settings.autoConnect.retryDelay * 2 ^ attempt)
            settings.autoConnect.greatestRetryDelay) := by
  intro doubles
  let settings : Settings := { autoConnect := { retryDelay := 1, greatestRetryDelay := 10 ^ 10 } }
  obtain ⟨policy, accepted⟩ : ∃ policy, settings.policy = .ok policy := ⟨_, rfl⟩
  obtain ⟨first, last⟩ := policy_delays accepted
  have doubled := doubles settings policy accepted (by decide) 32 (by decide)
  have held := AutoConnectPolicy.retryDelay_eq first last (by decide) 32
  exact absurd (held.symm.trans doubled) (by decide)

end Settings

end SignerLink
