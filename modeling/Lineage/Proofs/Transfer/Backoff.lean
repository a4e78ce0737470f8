import Mathlib
import Lineage.Transfer.Retry

/-! How pauses grow. The pause that is due doubles with each attempt, until after 32 of them its factor is
the greatest there is. Main statement: only the lowest 32 bits of an attempt's number count. A pause is the
one that is due exactly if these bits are the number itself or at least 32, as the number then is, and it is
no longer than another exactly if its bits are no greater up to 32. Neither matters where there are no
pauses at all, nor for a pause that is the longest there is. -/

namespace Lineage

namespace Duration

/-- The longest there is. -/
def longest : Duration := ⟨maxNanoseconds, Nat.le_refl _⟩

variable {d e : Duration} {a b : Nat}

theorem eq_zero_iff : d = zero ↔ d.nanoseconds = 0 :=
  ⟨congrArg nanoseconds, fun h => ext_nanoseconds h⟩

theorem eq_longest_iff : d = longest ↔ maxNanoseconds ≤ d.nanoseconds :=
  ⟨fun h => (congrArg nanoseconds h).ge, fun h => ext_nanoseconds (d.le_max.antisymm h)⟩

theorem eq_iff_le : d = e ↔ d ≤ e ∧ e ≤ d := by
  constructor
  · rintro rfl
    exact ⟨Nat.le_refl _, Nat.le_refl _⟩
  · rintro ⟨hle, hge⟩
    exact ext_nanoseconds (Nat.le_antisymm hle hge)

/-- A multiple is longer than another unless there is nothing to multiply or no room above. -/
theorem scale_le_scale_iff : d.scale a ≤ d.scale b ↔ a ≤ b ∨ d = zero ∨ d.scale b = longest := by
  change min (d.nanoseconds * a) maxNanoseconds ≤ min (d.nanoseconds * b) maxNanoseconds ↔ _
  rw [eq_zero_iff, eq_longest_iff, nanoseconds_scale]
  rcases Nat.eq_zero_or_pos d.nanoseconds with hzero | hpos
  · simp [hzero]
  · by_cases hab : a ≤ b
    · have hmono : d.nanoseconds * a ≤ d.nanoseconds * b := Nat.mul_le_mul_left _ hab
      omega
    · have hmono : d.nanoseconds * b < d.nanoseconds * a := Nat.mul_lt_mul_of_pos_left (by omega) hpos
      omega

end Duration

namespace RetryPolicy

/-- Two to the attempt, or the greatest number of 32 bits if that is less. -/
def doubled (attempt : Nat) : Nat := min (2 ^ attempt) (2 ^ 32 - 1)

/-- The pause that is due after an attempt. -/
def dueAfter (p : RetryPolicy) (attempt : Nat) : Duration := p.baseDelay.scale (doubled attempt)

variable {i j : Nat}

theorem doubled_of_lt (h : i < 32) : doubled i = 2 ^ i := by
  have hpow : 2 ^ i ≤ 2 ^ 31 := Nat.pow_le_pow_right (by decide) (by omega)
  exact Nat.min_eq_left (hpow.trans (by decide))

theorem doubled_of_le (h : 32 ≤ i) : doubled i = 2 ^ 32 - 1 := by
  have hpow : 2 ^ 32 ≤ 2 ^ i := Nat.pow_le_pow_right (by decide) h
  exact Nat.min_eq_right (by omega)

theorem doubled_le_doubled_iff : doubled i ≤ doubled j ↔ min i 32 ≤ j := by
  by_cases hj : 32 ≤ j
  · rw [doubled_of_le hj]
    exact iff_of_true (Nat.min_le_right _ _) (by omega)
  · have hsmall : doubled j = 2 ^ j := doubled_of_lt (by omega)
    have hpow : 2 ^ j ≤ 2 ^ 31 := Nat.pow_le_pow_right (by decide) (by omega)
    by_cases hi : 32 ≤ i
    · rw [doubled_of_le hi, hsmall]
      omega
    · have hlt : i < 32 := by omega
      rw [doubled_of_lt hlt, hsmall, Nat.pow_le_pow_iff_right (by decide)]
      omega

/-- Only 32 bits of the number of an attempt are looked at. -/
theorem factor_eq (attempt : Nat) : factor attempt = doubled (attempt % 2 ^ 32) := by
  rw [factor]
  split
  · rename_i hlt
    exact (doubled_of_lt hlt).symm
  · rename_i hle
    exact (doubled_of_le (Nat.le_of_not_lt hle)).symm

theorem delayAfter_eq (p : RetryPolicy) (attempt : Nat) :
    p.delayAfter attempt = p.dueAfter (attempt % 2 ^ 32) := by
  rw [delayAfter, factor_eq, dueAfter]

theorem dueAfter_le_dueAfter_iff {p : RetryPolicy} :
    p.dueAfter i ≤ p.dueAfter j ↔
      min i 32 ≤ j ∨ p.baseDelay = .zero ∨ p.dueAfter j = .longest := by
  rw [dueAfter, dueAfter, Duration.scale_le_scale_iff, doubled_le_doubled_iff]

/-- For every policy and any two attempts, with `delayAfter` for the pause that is made. -/
theorem pauses_double_iff (p : RetryPolicy) (i j : Nat) :
    (p.delayAfter i = p.dueAfter i ↔
      min i 32 ≤ i % 2 ^ 32 ∨ p.baseDelay = .zero ∨ p.delayAfter i = .longest) ∧
    (p.delayAfter i ≤ p.delayAfter j ↔
      min (i % 2 ^ 32) 32 ≤ j % 2 ^ 32 ∨ p.baseDelay = .zero ∨ p.delayAfter j = .longest) := by
  rw [delayAfter_eq, delayAfter_eq, Duration.eq_iff_le, dueAfter_le_dueAfter_iff,
    dueAfter_le_dueAfter_iff]
  refine ⟨and_iff_right (.inl ?_), dueAfter_le_dueAfter_iff⟩
  have hmod := Nat.mod_le i (2 ^ 32)
  omega

/-- After as many attempts as 32 bits can count, the pauses begin anew with a second. -/
theorem pause_shrinks :
    (upTo 3).delayAfter (2 ^ 32) = .ofSeconds 1 ∧ (upTo 3).delayAfter 1 = .ofSeconds 2 ∧
      (upTo 3).dueAfter (2 ^ 32) = .ofSeconds 4294967295 ∧
      ¬(upTo 3).delayAfter 1 ≤ (upTo 3).delayAfter (2 ^ 32) := by
  have hdue : doubled (2 ^ 32) = 2 ^ 32 - 1 := doubled_of_le (by decide)
  refine ⟨by decide, by decide, ?_, ?_⟩
  · rw [dueAfter, hdue]
    decide
  · change ¬((upTo 3).delayAfter 1).nanoseconds ≤ ((upTo 3).delayAfter (2 ^ 32)).nanoseconds
    decide

end RetryPolicy

end Lineage
