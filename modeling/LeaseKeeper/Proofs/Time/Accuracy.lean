/-
# How exact scaling is

A number is close to another if they differ by at most a small part of the other.  Rounding to a
number of significant digits gives a close number, and what is computed from close numbers is close
again.  So a duration times a double differs from the exact product by half a nanosecond and a part
of `2 ^ (-51)` at most.
-/
import Mathlib.Data.Rat.Cast.Order
import Mathlib.Tactic.FieldSimp
import Mathlib.Tactic.GCongr
import Mathlib.Tactic.Linarith
import Mathlib.Tactic.NormNum
import Mathlib.Tactic.Positivity
import LeaseKeeper.Proofs.Time.Scaling

namespace LeaseKeeper

namespace Rounding

/-- Two numbers differ by at most the part `u` of the second one. -/
def Close (u x y : ℚ) : Prop := |x - y| ≤ u * y

namespace Close

variable {u v x y z x' y' : ℚ}

lemma refl (hu : 0 ≤ u) (hx : 0 ≤ x) : Close u x x := by
  rw [Close, sub_self, abs_zero]
  exact mul_nonneg hu hx

lemma mono (h : Close u x y) (hy : 0 ≤ y) (huv : u ≤ v) : Close v x y :=
  le_trans h (mul_le_mul_of_nonneg_right huv hy)

lemma add (h : Close u x y) (h' : Close u x' y') : Close u (x + x') (y + y') := by
  unfold Close at *
  have hsplit : x + x' - (y + y') = (x - y) + (x' - y') := by ring
  calc |x + x' - (y + y')| ≤ |x - y| + |x' - y'| := by
        rw [hsplit]
        exact abs_add_le _ _
    _ ≤ u * (y + y') := by linarith

lemma mul_right (h : Close u x y) (hz : 0 ≤ z) : Close u (x * z) (y * z) := by
  unfold Close at *
  have hsplit : x * z - y * z = (x - y) * z := by ring
  rw [hsplit, abs_mul, abs_of_nonneg hz]
  calc |x - y| * z ≤ u * y * z := mul_le_mul_of_nonneg_right h hz
    _ = u * (y * z) := by ring

lemma trans (h : Close u x y) (h' : Close v y z) (hu : 0 ≤ u) : Close (u + v + u * v) x z := by
  unfold Close at *
  have hy : y ≤ (1 + v) * z := by linarith [le_abs_self (y - z)]
  calc |x - z| ≤ |x - y| + |y - z| := abs_sub_le x y z
    _ ≤ u * ((1 + v) * z) + v * z := add_le_add (h.trans (mul_le_mul_of_nonneg_left hy hu)) h'
    _ = (u + v + u * v) * z := by ring

/-- A number is at most twice as large as one that is close to it. -/
lemma le_two_mul (h : Close u x y) (hu : u ≤ 1 / 2) (hy : 0 ≤ y) : y ≤ 2 * x := by
  have hlow := (abs_le.1 h).1
  have hpart := mul_le_mul_of_nonneg_right hu hy
  linarith

end Close

/-- The nearest whole number is at most one half away. -/
lemma abs_nearest_sub_le (num : ℕ) {den : ℕ} (hden : 0 < den) :
    |(nearest num den : ℚ) - num / den| ≤ 1 / 2 := by
  have hpos : (0 : ℚ) < den := by exact_mod_cast hden
  have hdiv := Nat.div_add_mod num den
  have hmod := Nat.mod_lt num hden
  have hquot : (num : ℚ) / den = (num / den : ℕ) + ((num % den : ℕ) : ℚ) / den := by
    rw [div_eq_iff hpos.ne', add_mul, div_mul_cancel₀ _ hpos.ne']
    exact_mod_cast (by linarith [Nat.mul_comm den (num / den)])
  rw [hquot]
  unfold nearest
  dsimp only
  split
  · -- at most half is left over
    rename_i h
    have hhalf : 2 * (num % den) ≤ den := by omega
    have hrest : ((num % den : ℕ) : ℚ) / den ≤ 1 / 2 := by
      rw [div_le_div_iff₀ hpos two_pos]
      exact_mod_cast (by omega)
    have hnonneg : (0 : ℚ) ≤ ((num % den : ℕ) : ℚ) / den := by positivity
    rw [abs_le]
    constructor <;> linarith
  · rename_i h
    have hhalf : den ≤ 2 * (num % den) := by omega
    have hrest : (1 : ℚ) / 2 ≤ ((num % den : ℕ) : ℚ) / den := by
      rw [div_le_div_iff₀ two_pos hpos]
      exact_mod_cast (by omega)
    have hone : ((num % den : ℕ) : ℚ) / den ≤ 1 := by
      rw [div_le_one hpos]
      exact_mod_cast hmod.le
    push_cast
    rw [abs_le]
    constructor <;> linarith

@[simp] lemma significant_zero (digits : ℕ) {den : ℕ} (hden : 0 < den) : significant digits 0 den = 0 := by
  simp [significant, nearest, hden]

/-- A number that has `digits` digits before the point, or is zero, is close to what it is rounded
to. -/
lemma close_significant (digits num : ℕ) {den : ℕ} (hd : 0 < digits) (hden : 0 < den)
    (h : num = 0 ∨ 2 ^ (digits - 1) ≤ num / den) :
    Close (1 / 2 ^ digits) (significant digits num den) (num / den) := by
  rcases h with rfl | h
  · rw [significant_zero _ hden]
    simpa using Close.refl (by positivity : (0 : ℚ) ≤ 1 / 2 ^ digits) le_rfl
  have hdenq : (0 : ℚ) < den := by exact_mod_cast hden
  have hq : num / den ≠ 0 := by
    have hpow := Nat.two_pow_pos (digits - 1)
    omega
  have hlog := (Nat.le_log2 hq).2 h
  unfold significant
  dsimp only
  generalize hs : Nat.log2 (num / den) + 1 - digits = spare
  rw [Nat.shiftLeft_eq, Nat.shiftLeft_eq]
  -- The last place is at most the part `2 ^ (1 - digits)` of the number.
  have hplace : den * 2 ^ spare * 2 ^ (digits - 1) ≤ num := by
    have hself := Nat.log2_self_le hq
    calc den * 2 ^ spare * 2 ^ (digits - 1) = 2 ^ Nat.log2 (num / den) * den := by
          rw [mul_assoc, ← pow_add, mul_comm]
          congr 2
          omega
      _ ≤ num := (Nat.mul_le_mul_right den hself).trans (Nat.div_mul_le_self num den)
  have hround := abs_nearest_sub_le num (by positivity : 0 < den * 2 ^ spare)
  push_cast at hround ⊢
  unfold Close
  have hsplit : (nearest num (den * 2 ^ spare) : ℚ) * 2 ^ spare - num / den =
      (nearest num (den * 2 ^ spare) - num / (den * 2 ^ spare)) * 2 ^ spare := by
    field_simp
  rw [hsplit, abs_mul, abs_of_pos (by positivity : (0 : ℚ) < 2 ^ spare)]
  calc |(nearest num (den * 2 ^ spare) : ℚ) - num / (den * 2 ^ spare)| * 2 ^ spare
      ≤ 1 / 2 * 2 ^ spare := mul_le_mul_of_nonneg_right hround (by positivity)
    _ ≤ 1 / 2 ^ digits * (num / den) := by
        have hcast : (den : ℚ) * 2 ^ spare * 2 ^ (digits - 1) ≤ num := by exact_mod_cast hplace
        have hdigits : (2 : ℚ) ^ digits = 2 ^ (digits - 1) * 2 := by
          rw [← pow_succ]
          congr 1
          omega
        rw [hdigits, div_mul_div_comm, one_mul, le_div_iff₀ (by positivity)]
        linarith

end Rounding

namespace Duration

open Rounding

/-- Every length of at least a nanosecond has enough digits in units of `2 ^ (-128)` seconds. -/
lemma le_units {num den : ℕ} (hnum : num ≠ 0) (hpos : 0 < den) (hden : den ≤ 1000000000) :
    2 ^ 97 ≤ num * Rounding.unit / den := by
  rw [Nat.le_div_iff_mul_le hpos, unit_eq]
  have hmul := Nat.mul_le_mul (Nat.one_le_iff_ne_zero.2 hnum) (Nat.le_refl (2 ^ 128))
  omega

/-- A whole number of parts of a second, as a double. -/
lemma close_double (num : ℕ) {den : ℕ} (hpos : 0 < den) (hden : den ≤ 1000000000) :
    Close (1 / 2 ^ 53) (double num den) (num * 2 ^ 128 / den) := by
  have hdigits : num * Rounding.unit = 0 ∨ 2 ^ (53 - 1) ≤ num * Rounding.unit / den := by
    rcases Nat.eq_zero_or_pos num with rfl | hnum
    · exact Or.inl (Nat.zero_mul _)
    · exact Or.inr (le_trans (by norm_num) (le_units hnum.ne' hpos hden))
  have hclose := close_significant 53 _ (by omega) hpos hdigits
  rw [unit_eq] at hclose
  unfold double
  rw [unit_eq]
  push_cast at hclose ⊢
  exact hclose

lemma le_double {num den : ℕ} (hnum : num ≠ 0) (hpos : 0 < den) (hden : den ≤ 1000000000) :
    2 ^ 96 ≤ double num den := by
  have hunits : (2 : ℚ) ^ 97 ≤ num * 2 ^ 128 / den := by
    rw [le_div_iff₀ (by exact_mod_cast hpos)]
    have hle := (Nat.le_div_iff_mul_le hpos).1 (le_units hnum hpos hden)
    rw [unit_eq] at hle
    exact_mod_cast hle
  have htwice := (close_double num hpos hden).le_two_mul (by norm_num) (by positivity)
  have hcast : (2 : ℚ) ^ 96 ≤ double num den := by linarith
  exact_mod_cast hcast

/-- The seconds and the fraction of a duration, as doubles, add up to its length but for a small
part of it. -/
lemma close_parts (d : Duration) :
    Close (1 / 2 ^ 53) (double d.seconds 1 + double d.subsecond 1000000000 : ℕ)
      (d.nanos * 2 ^ 128 / 1000000000) := by
  have hsec := close_double d.seconds one_pos (by omega)
  have hsub := close_double d.subsecond (by omega : 0 < 1000000000) le_rfl
  have hlength : (d.seconds * 2 ^ 128 / (1 : ℕ) : ℚ) +
      d.subsecond * 2 ^ 128 / (1000000000 : ℕ) = d.nanos * 2 ^ 128 / 1000000000 := by
    have hcast : (d.nanos : ℚ) = 1000000000 * d.seconds + d.subsecond := by
      exact_mod_cast (Nat.div_add_mod d.nanos 1000000000).symm
    rw [hcast]
    push_cast
    ring
  have hsum := hsec.add hsub
  rw [hlength] at hsum
  exact_mod_cast hsum

lemma le_parts {d : Duration} (h : d.nanos ≠ 0) :
    2 ^ 96 ≤ double d.seconds 1 + double d.subsecond 1000000000 := by
  by_cases hsec : d.seconds = 0
  · have hsub : d.subsecond ≠ 0 := by
      unfold seconds at hsec
      unfold subsecond
      omega
    exact le_trans (le_double hsub (by omega) le_rfl) (Nat.le_add_left _ _)
  · exact le_trans (le_double hsec one_pos (by omega)) (Nat.le_add_right _ _)

/-- A duration, as a double, is close to its length. -/
lemma close_toDouble {d : Duration} (h : d.nanos ≠ 0) :
    Close (3 / 2 ^ 53) d.toDouble (d.nanos * 2 ^ 128 / 1000000000) ∧ 2 ^ 95 ≤ d.toDouble := by
  have hparts := le_parts h
  have hround := close_significant 53 (double d.seconds 1 + double d.subsecond 1000000000)
    (by omega) one_pos (Or.inr (by omega))
  rw [Nat.cast_one, div_one] at hround
  refine ⟨(hround.trans (close_parts d) (by norm_num)).mono (by positivity) (by norm_num), ?_⟩
  have htwice := hround.le_two_mul (by norm_num) (by positivity)
  have hcast : double d.seconds 1 + double d.subsecond 1000000000 ≤ 2 * d.toDouble := by
    exact_mod_cast htwice
  omega

/-- A duration times a double is the exact product but for half a nanosecond and a small part of
it. -/
lemma abs_scale?_sub_le {d x : Duration} {factor : ℕ} (hfactor : 2 ^ 100 ≤ factor)
    (h : d.scale? factor = some x) :
    |(x.nanos : ℚ) - d.nanos * (factor / 2 ^ 128)| ≤
      (1 : ℚ) / 2 + 5 / 2 ^ 53 * (d.nanos * (factor / 2 ^ 128)) := by
  by_cases hzero : d.nanos = 0
  · simp only [scale?, hzero, Option.some.injEq] at h
    subst h
    simp [hzero]
  obtain ⟨hdouble, hsize⟩ := close_toDouble hzero
  have hunit : 0 < Rounding.unit := by
    rw [unit_eq]
    positivity
  have hdigits : 2 ^ (53 - 1) ≤ d.toDouble * factor / Rounding.unit := by
    rw [Nat.le_div_iff_mul_le hunit, unit_eq]
    exact le_trans (by norm_num) (Nat.mul_le_mul hsize hfactor)
  -- The product of the doubles is rounded once more, and then counted in nanoseconds.
  have hround := close_significant 53 _ (by omega) hunit (Or.inr hdigits)
  have hproduct := hdouble.mul_right (z := factor / 2 ^ 128) (by positivity)
  rw [show ((d.toDouble * factor : ℕ) : ℚ) / Rounding.unit = d.toDouble * (factor / 2 ^ 128) by
    rw [unit_eq]
    push_cast
    ring] at hround
  have hscaled := ((hround.trans hproduct (by norm_num)).mono (by positivity)
    (by norm_num : _ ≤ (5 : ℚ) / 2 ^ 53)).mul_right (z := 1000000000 / 2 ^ 128) (by positivity)
  rw [show (d.nanos * 2 ^ 128 / 1000000000 * (factor / 2 ^ 128) * (1000000000 / 2 ^ 128) : ℚ) =
    d.nanos * (factor / 2 ^ 128) by ring] at hscaled
  have hnearest := abs_nearest_sub_le (mulDouble d.toDouble factor * 1000000000) hunit
  have hx : x.nanos = nearest (mulDouble d.toDouble factor * 1000000000) Rounding.unit := by
    unfold scale? at h
    split at h
    · contradiction
    · exact ofNanos?_eq_some.1 h
  rw [← hx, show ((mulDouble d.toDouble factor * 1000000000 : ℕ) : ℚ) / Rounding.unit =
    mulDouble d.toDouble factor * (1000000000 / 2 ^ 128) by
      rw [unit_eq]
      push_cast
      ring] at hnearest
  exact (abs_sub_le _ _ _).trans (add_le_add hnearest hscaled)

end Duration
end LeaseKeeper
