import Mathlib.Tactic

/-!
# Signed 64-bit arithmetic

The operations of a signed 64-bit integer are those of the integers, kept modulo `2 ^ 64`
in the balanced range. The lemmas tell when a kept value, or a quotient of one, reaches a
positive bound.
-/

namespace Word

/-- The value that a signed 64-bit integer holds after an operation with the result `x`. -/
def int64 (x : ℤ) : ℤ := x.bmod (2 ^ 64)

/-- The 64 bits of `x` are those of a number between `k` and the greatest `int64`. -/
def Reaches (k x : ℤ) : Prop := k ≤ x % 2 ^ 64 ∧ x % 2 ^ 64 < 2 ^ 63

instance (k x : ℤ) : Decidable (Reaches k x) := inferInstanceAs (Decidable (_ ∧ _))

theorem int64_eq (x : ℤ) :
    int64 x = if x % 2 ^ 64 < 2 ^ 63 then x % 2 ^ 64 else x % 2 ^ 64 - 2 ^ 64 := by
  rw [int64, Int.bmod_def]
  norm_num

theorem le_int64_iff {k x : ℤ} (hk : 0 < k) : k ≤ int64 x ↔ Reaches k x := by
  rw [int64_eq, Reaches]
  split_ifs <;> omega

theorem int64_of_bounds {x : ℤ} (hlow : -2 ^ 63 ≤ x) (hhigh : x < 2 ^ 63) : int64 x = x := by
  rw [int64_eq]
  split_ifs <;> omega

theorem int64_bounds (x : ℤ) : -2 ^ 63 ≤ int64 x ∧ int64 x < 2 ^ 63 := by
  rw [int64_eq]
  split_ifs <;> omega

theorem int64_int64_add (x y : ℤ) : int64 (int64 x + y) = int64 (x + y) := Int.bmod_add_bmod

theorem int64_sub_int64 (x y : ℤ) : int64 (x - int64 y) = int64 (x - y) := Int.sub_bmod_bmod

theorem reaches_of_bounds {k x : ℤ} (hk : 0 ≤ k) (hlow : k ≤ x) (hhigh : x < 2 ^ 63) :
    Reaches k x := by
  unfold Reaches
  omega

/-- The quotient of Go's division reaches a positive bound exactly when the product does. -/
theorem le_tdiv_iff {c y k : ℤ} (hk : 0 < k) (hc : 0 < c) : c ≤ y.tdiv k ↔ c * k ≤ y := by
  constructor
  · intro hle
    have hy : 0 ≤ y := by
      by_contra hneg
      have hquotient : y.tdiv k ≤ 0 := by
        have hle' := Int.tdiv_le_tdiv hk (not_le.mp hneg).le
        rwa [Int.zero_tdiv] at hle'
      omega
    rw [Int.tdiv_eq_ediv_of_nonneg hy] at hle
    exact (Int.le_ediv_iff_mul_le hk).mp hle
  · exact Int.le_tdiv_of_mul_le hk

/-- The quotient that adds the divisor less one first is the exact quotient, rounded up. -/
theorem tdiv_eq_ceil {x k : ℤ} (hx : 0 ≤ x) (hk : 0 < k) :
    (x + (k - 1)).tdiv k = ⌈(x / k : ℚ)⌉ := by
  have hkq : (0 : ℚ) < k := by exact_mod_cast hk
  rw [Int.tdiv_eq_ediv_of_nonneg (by omega)]
  have hdiv := Int.mul_ediv_add_emod (x + (k - 1)) k
  have hlow := Int.emod_nonneg (x + (k - 1)) hk.ne'
  have hhigh := Int.emod_lt_of_pos (x + (k - 1)) hk
  symm
  rw [Int.ceil_eq_iff, lt_div_iff₀ hkq, div_le_iff₀ hkq]
  constructor
  · have hbelow : ((x + (k - 1)) / k - 1) * k < x := by linarith
    exact_mod_cast hbelow
  · have habove : x ≤ (x + (k - 1)) / k * k := by linarith
    exact_mod_cast habove

theorem int64_eq_self_iff {x : ℤ} : int64 x = x ↔ -2 ^ 63 ≤ x ∧ x < 2 ^ 63 := by
  constructor
  · intro hself
    rw [← hself]
    exact int64_bounds x
  · rintro ⟨hlow, hhigh⟩
    exact int64_of_bounds hlow hhigh

/-- A numerator beyond the 64 bits has another quotient. -/
theorem tdiv_int64_ne {x k : ℤ} (hk : 0 < k) (hkx : k < 2 ^ 63) (hx : 2 ^ 63 ≤ x) :
    (int64 x).tdiv k ≠ x.tdiv k := by
  intro heq
  have hquotient : 1 ≤ x.tdiv k := (le_tdiv_iff hk one_pos).mpr (by omega)
  have hkept : x.tdiv k * k ≤ int64 x := (le_tdiv_iff hk (by omega)).mp heq.ge
  have hbelow : int64 x ≤ x - 2 ^ 64 := by
    rw [int64_eq]
    split_ifs <;> omega
  have hgap : x < x.tdiv k * k + k := by
    rw [Int.tdiv_eq_ediv_of_nonneg (by omega)]
    exact Int.lt_ediv_add_one_mul_self x hk |>.trans_eq (by ring)
  omega

theorem tdiv_eq_zero {y k : ℤ} (hy : 0 ≤ y) (hyk : y < k) : y.tdiv k = 0 := by
  rw [Int.tdiv_eq_ediv_of_nonneg hy]
  exact Int.ediv_eq_zero_of_lt hy hyk

/-- A quotient of a 64-bit value leaves room for a small difference. -/
theorem tdiv_bounds {y k : ℤ} (hy : -2 ^ 63 ≤ y ∧ y < 2 ^ 63) (hk : 2 ≤ k) :
    -2 ^ 62 ≤ y.tdiv k ∧ y.tdiv k ≤ 2 ^ 62 := by
  have hpos : 0 < k := by omega
  constructor
  · by_contra hlow
    have hneg : 2 ^ 62 + 1 ≤ (-y).tdiv k := by
      rw [Int.neg_tdiv]
      omega
    have hmul := (le_tdiv_iff hpos (by norm_num)).mp hneg
    nlinarith
  · by_contra hhigh
    have hmul := (le_tdiv_iff (c := 2 ^ 62 + 1) (y := y) hpos (by norm_num)).mp (by omega)
    nlinarith

end Word
