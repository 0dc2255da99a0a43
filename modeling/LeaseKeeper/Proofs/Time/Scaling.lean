/-
# Scaling stays in range

A duration passes through binary floating point when it is scaled.  Rounding to a number of
significant digits never leaves a bound that is itself such a number, so the double of a duration
is at most `2 ^ 64` seconds, and a duration times a double below one is a duration again.
-/
import Mathlib.Tactic.Linarith
import Mathlib.Tactic.Ring
import LeaseKeeper.Watch.Window

namespace LeaseKeeper

namespace Rounding

/-- Less than half a unit above `m`, the nearest whole number is at most `m`. -/
lemma nearest_le_of_lt {num den m : ℕ} (h : 2 * num < (2 * m + 1) * den) :
    nearest num den ≤ m := by
  have hlt : num < den * (m + 1) := by nlinarith
  have hq : num / den ≤ m := Nat.le_of_lt_succ (Nat.div_lt_of_lt_mul hlt)
  unfold nearest
  dsimp only
  rcases Nat.lt_or_eq_of_le hq with hlow | heq
  · split <;> omega
  · -- the quotient is `m`, and less than half is left over
    have hdiv := Nat.div_add_mod num den
    rw [heq] at hdiv
    have hrest : 2 * (num % den) < den := by nlinarith
    rw [if_pos (Or.inl hrest), heq]

/-- A quotient below `2 ^ k` is rounded at a place of at most `k - digits`. -/
lemma spare_le {digits k q : ℕ} (hq : q < 2 ^ (digits + k)) (hd : 0 < digits) :
    Nat.log2 q + 1 - digits ≤ k := by
  rcases Nat.eq_zero_or_pos q with rfl | hpos
  · rw [Nat.log2_zero]
    omega
  · have hlog := (Nat.log2_lt (Nat.ne_of_gt hpos)).2 hq
    omega

/-- Rounding to `digits` significant digits does not leave a bound that has as many: what is less
than half of the bound's last place above it comes back to it. -/
lemma significant_le {digits e m num den : ℕ} (hd : 0 < digits) (hlow : 2 ^ (digits - 1) ≤ m)
    (hhigh : m < 2 ^ digits) (h : 2 * num < (2 * m + 1) * (den * 2 ^ e)) :
    significant digits num den ≤ m * 2 ^ e := by
  have hquot : num / den < 2 ^ (digits + e) := by
    apply Nat.div_lt_of_lt_mul
    have hpow : 0 < den * 2 ^ e := by nlinarith
    have hm : m + 1 ≤ 2 ^ digits := hhigh
    rw [pow_add]
    nlinarith
  have hle := spare_le hquot hd
  have hover := Nat.lt_log2_self (n := num / den)
  unfold significant
  dsimp only
  generalize hs : Nat.log2 (num / den) + 1 - digits = spare at hle ⊢
  rw [Nat.shiftLeft_eq, Nat.shiftLeft_eq]
  rcases Nat.lt_or_eq_of_le hle with hlt | rfl
  · -- below the last place of the bound, the rounded value is at most the next power of two
    have hq : num / den < 2 ^ (digits + spare) :=
      lt_of_lt_of_le hover (Nat.pow_le_pow_right (by omega) (by omega))
    have hround : nearest num (den * 2 ^ spare) ≤ 2 ^ digits := by
      refine le_trans (nearest_le _ _) ?_
      rw [← Nat.div_div_eq_div_mul]
      rw [pow_add] at hq
      exact Nat.div_lt_of_lt_mul (by linarith [Nat.mul_comm (2 ^ digits) (2 ^ spare)])
    calc nearest num (den * 2 ^ spare) * 2 ^ spare
        ≤ 2 ^ digits * 2 ^ spare := Nat.mul_le_mul_right _ hround
      _ = 2 ^ (digits - 1) * 2 ^ (spare + 1) := by
          rw [← pow_add, ← pow_add]
          congr 1
          omega
      _ ≤ m * 2 ^ e := Nat.mul_le_mul hlow (Nat.pow_le_pow_right (by omega) hlt)
  · exact Nat.mul_le_mul_right _ (nearest_le_of_lt h)

end Rounding

namespace Duration

open Rounding

lemma unit_eq : Rounding.unit = 2 ^ 128 := by decide +kernel

lemma size_eq : UInt64.size * 1000000000 = 2 ^ 64 * 1000000000 := rfl

/-- Less than `2 ^ 64` seconds are a duration. -/
lemma exists_ofNanos? {n : ℕ} (h : n < 2 ^ 64 * 1000000000) : ∃ d, ofNanos? n = some d :=
  ⟨⟨n, size_eq ▸ h⟩, ofNanos?_eq_some.2 rfl⟩

/-- As a double, a duration is at most `2 ^ 64` seconds. -/
lemma toDouble_le (d : Duration) : d.toDouble ≤ 2 ^ 192 := by
  have hnanos := d.nanos_lt
  have hsec : d.seconds < 2 ^ 64 := by
    unfold seconds
    simp only [UInt64.size] at hnanos
    omega
  have hsub : d.subsecond < 1000000000 := Nat.mod_lt _ (by omega)
  have hwhole : double d.seconds 1 ≤ 2 ^ 52 * 2 ^ 140 := by
    apply significant_le (by omega) (by omega) (by omega)
    rw [unit_eq]
    omega
  have hpart : double d.subsecond 1000000000 ≤ 2 ^ 52 * 2 ^ 76 := by
    apply significant_le (by omega) (by omega) (by omega)
    rw [unit_eq]
    omega
  have hsum : addDouble (double d.seconds 1) (double d.subsecond 1000000000) ≤
      2 ^ 52 * 2 ^ 140 := by
    apply significant_le (by omega) (by omega) (by omega)
    omega
  unfold toDouble
  omega

/-- A duration times a double of at most `m * 2 ^ (k - 128)` has at most `m * 2 ^ (k - 64)`
seconds, where `m` has the digits of a double. -/
lemma scale?_le (d : Duration) {factor m k : ℕ} (hlow : 2 ^ 52 ≤ m) (hhigh : m < 2 ^ 53)
    (hfactor : factor ≤ m * 2 ^ (k + 64)) (hrange : m * 2 ^ k < 2 ^ 64) :
    ∃ x, d.scale? factor = some x ∧ x.nanos ≤ m * 2 ^ k * 1000000000 := by
  have hprod : mulDouble d.toDouble factor ≤ m * 2 ^ (k + 128) := by
    apply significant_le (by omega) hlow hhigh
    have hle : d.toDouble * factor ≤ 2 ^ 192 * (m * 2 ^ (k + 64)) :=
      Nat.mul_le_mul d.toDouble_le hfactor
    have hpos : 0 < Rounding.unit * 2 ^ (k + 128) := by
      rw [unit_eq]
      positivity
    have heq : 2 ^ 192 * (m * 2 ^ (k + 64)) = m * (Rounding.unit * 2 ^ (k + 128)) := by
      rw [unit_eq]
      ring
    nlinarith
  have hnear : nearest (mulDouble d.toDouble factor * 1000000000) Rounding.unit
      ≤ m * 2 ^ k * 1000000000 := by
    apply nearest_le_of_lt
    have hpow : m * 2 ^ (k + 128) = m * 2 ^ k * 2 ^ 128 := by ring
    rw [unit_eq]
    rw [hpow] at hprod
    linarith
  unfold scale?
  cases d.nanos with
  | zero => exact ⟨.zero, rfl, Nat.zero_le _⟩
  | succ n =>
    obtain ⟨x, hx⟩ := exists_ofNanos? (lt_of_le_of_lt hnear (by omega))
    exact ⟨x, hx, ofNanos?_eq_some.1 hx ▸ hnear⟩

end Duration
end LeaseKeeper
