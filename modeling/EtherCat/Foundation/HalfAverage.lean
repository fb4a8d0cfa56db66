import Mathlib.Algebra.Group.Nat.Defs
import Mathlib.Tactic.Common

/-!
# Averages by halving

A running value takes the first measurement as it is and from then on the mean of itself and every
new one; both are halved and rounded down before they are added.  Zero stands for no value yet.
An error that every measurement has passes on to the value with one more unit for the rounding
(`le_next_add`); measurements that are all the same are met up to one (`after_const`).  A value that
differs from later measurements approaches them by a half each time (`after_const_of_pos`).
-/

namespace HalfAverage

/-- The value with a new measurement. -/
def next (value measured : ℕ) : ℕ :=
  if value = 0 then measured else value / 2 + measured / 2

/-- The value after the first `k` measurements. -/
def after (value : ℕ) (measured : ℕ → ℕ) : ℕ → ℕ
  | 0 => value
  | k + 1 => next (after value measured k) (measured k)

lemma next_le {value measured bound : ℕ} (hvalue : value ≤ bound) (hmeasured : measured ≤ bound) :
    next value measured ≤ bound := by
  unfold next
  split <;> omega

/-- **The error of a step.**  A value that is off by one more than the measurement stays so. -/
lemma le_next_add {value measured target error : ℕ}
    (hvalue : value = 0 ∨ target ≤ value + (error + 1)) (hmeasured : target ≤ measured + error) :
    target ≤ next value measured + (error + 1) := by
  unfold next
  split <;> omega

/-- At least half of a measurement gets into the value. -/
lemma half_le_next (value measured : ℕ) : measured / 2 ≤ next value measured := by
  unfold next
  split <;> omega

@[simp] lemma next_measured_zero (value : ℕ) : next value 0 = value / 2 := by
  unfold next
  split <;> omega

/-! ## Several measurements -/

lemma after_add (value : ℕ) (measured : ℕ → ℕ) (j k : ℕ) :
    after value measured (j + k) =
      after (after value measured j) (fun i => measured (j + i)) k := by
  induction k with
  | zero => rfl
  | succ k ih => rw [← Nat.add_assoc, after, ih, after]

lemma after_congr {measured measured' : ℕ → ℕ} {k : ℕ}
    (h : ∀ i < k, measured i = measured' i) (value : ℕ) :
    after value measured k = after value measured' k := by
  induction k with
  | zero => rfl
  | succ k ih =>
      rw [after, after, ih fun i hi => h i (Nat.lt_succ_of_lt hi), h k (Nat.lt_succ_self k)]

lemma after_le {value bound : ℕ} {measured : ℕ → ℕ} {k : ℕ} (hvalue : value ≤ bound)
    (h : ∀ i < k, measured i ≤ bound) : after value measured k ≤ bound := by
  induction k with
  | zero => exact hvalue
  | succ k ih =>
      exact next_le (ih fun i hi => h i (Nat.lt_succ_of_lt hi)) (h k (Nat.lt_succ_self k))

/-- Measurements of zero only halve the value. -/
lemma after_zero_measurements (value k : ℕ) : after value (fun _ => 0) k = value / 2 ^ k := by
  induction k with
  | zero => rw [after, Nat.pow_zero, Nat.div_one]
  | succ k ih => rw [after, ih, next_measured_zero, Nat.div_div_eq_div_mul, Nat.pow_succ]

/-- **The same measurement again and again.** -/
theorem after_const (measured : ℕ) {k : ℕ} (hk : 0 < k) :
    after 0 (fun _ => measured) k ≤ measured ∧
      measured ≤ after 0 (fun _ => measured) k + 1 := by
  refine ⟨after_le (Nat.zero_le _) fun _ _ => Nat.le_refl _, ?_⟩
  obtain ⟨k, rfl⟩ : ∃ j, k = j + 1 := ⟨k - 1, by omega⟩
  clear hk
  induction k with
  | zero => exact le_next_add (.inl rfl) (Nat.le_refl _)
  | succ k ih => exact le_next_add (.inr ih) (Nat.le_refl _)

/-- **The approach to a measurement.**  Behind `k` measurements a `2 ^ k`-th of the difference is
left, up to two units that the rounding takes. -/
theorem after_const_of_pos {value measured : ℕ} (hvalue : 0 < value) (hmeasured : 2 ≤ measured)
    (k : ℕ) :
    2 ^ k * after value (fun _ => measured) k + measured ≤ value + 2 ^ k * measured ∧
      value + 2 ^ k * measured ≤ 2 ^ k * (after value (fun _ => measured) k + 2) + measured := by
  have hpos : ∀ k, 0 < after value (fun _ => measured) k := by
    intro k
    induction k with
    | zero => exact hvalue
    | succ k ih =>
        have hhalf := half_le_next (after value (fun _ => measured) k) measured
        rw [after]
        omega
  induction k with
  | zero => simp [after]
  | succ k ih =>
      have hstep : after value (fun _ => measured) (k + 1) =
          after value (fun _ => measured) k / 2 + measured / 2 := by
        rw [after, next, if_neg (Nat.ne_of_gt (hpos k))]
      have hupper : 2 ^ k * (2 * after value (fun _ => measured) (k + 1)) ≤
          2 ^ k * (after value (fun _ => measured) k + measured) :=
        Nat.mul_le_mul_left _ (by omega)
      have hlower : 2 ^ k * (after value (fun _ => measured) k + measured + 2) ≤
          2 ^ k * (2 * (after value (fun _ => measured) (k + 1) + 2)) :=
        Nat.mul_le_mul_left _ (by omega)
      have hdouble (x : ℕ) : 2 ^ k * (2 * x) = 2 * (2 ^ k * x) := Nat.mul_left_comm _ _ _
      rw [Nat.pow_succ]
      simp only [Nat.mul_add, Nat.mul_assoc, hdouble] at ih hupper hlower ⊢
      omega

end HalfAverage
