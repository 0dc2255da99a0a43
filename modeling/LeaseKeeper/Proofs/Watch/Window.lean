/-
# Windows and rests are always in range

However long a lease lives and whatever window is configured or drawn, the grace window and the
rest before the next renewal are durations.  A task therefore never meets a length of time that is
out of range.  The tenth that a drawn window starts from, and the two thirds that a rest starts
from, are right to half a nanosecond unless the lease is very long.
-/
import LeaseKeeper.Proofs.Time.Accuracy

namespace LeaseKeeper
namespace Watch

open Duration

lemma oneTenth_eq : oneTenth = 7205759403792794 * 2 ^ (8 + 64) := by decide +kernel

lemma twoThirds_eq : twoThirds = 6004799503160661 * 2 ^ (11 + 64) := by decide +kernel

/-- One tenth of a duration, and one drawn tenth more, is a duration. -/
lemma exists_graceFor? (c : Config) (ttl : Duration) (draw : ℕ) :
    ∃ grace, c.graceFor? ttl draw = some grace := by
  unfold Config.graceFor?
  cases c.grace with
  | some grace => exact ⟨grace, rfl⟩
  | none =>
    obtain ⟨tenth, hscale, hle⟩ :=
      ttl.scale?_le (by omega) (by omega) (le_of_eq oneTenth_eq) (by omega)
    simp only [hscale]
    by_cases hzero : tenth.nanos = 0
    · exact ⟨.zero, if_pos hzero⟩
    · have hmod := Nat.mod_lt draw (Nat.pos_of_ne_zero hzero)
      rw [if_neg hzero]
      exact exists_ofNanos? (by omega)

/-- Two thirds of the remaining time and a third of the window together are a duration. -/
lemma exists_nextRenewal? (left grace : Duration) :
    ∃ rest, nextRenewal? left grace = some rest := by
  obtain ⟨most, hscale, hle⟩ :=
    left.scale?_le (by omega) (by omega) (le_of_eq twoThirds_eq) (by omega)
  have hgrace := grace.nanos_lt
  rw [size_eq] at hgrace
  simp only [nextRenewal?, hscale]
  exact exists_ofNanos? (by rw [nanos_third]; omega)

/-- A drawn window is one tenth of the time to live, and less than one tenth more. -/
lemma graceFor?_drawn {c : Config} {ttl grace : Duration} {draw : ℕ} (hc : c.grace = none)
    (h : c.graceFor? ttl draw = some grace) :
    ∃ tenth, ttl.scale? oneTenth = some tenth ∧
      (tenth.nanos = 0 ∧ grace.nanos = 0 ∨ draw % tenth.nanos < tenth.nanos ∧
        grace.nanos = tenth.nanos + draw % tenth.nanos) := by
  obtain ⟨tenth, hscale, -⟩ :=
    ttl.scale?_le (by omega) (by omega) (le_of_eq oneTenth_eq) (by omega)
  refine ⟨tenth, hscale, ?_⟩
  simp only [Config.graceFor?, hc, hscale] at h
  split at h
  · rename_i hzero
    cases h
    exact Or.inl ⟨hzero, rfl⟩
  · rename_i hpos
    exact Or.inr ⟨Nat.mod_lt _ (Nat.pos_of_ne_zero hpos), ofNanos?_eq_some.1 h⟩

/-- A rest is two thirds of the remaining time and a third of the window. -/
lemma nextRenewal?_eq_some {left grace rest : Duration} (h : nextRenewal? left grace = some rest) :
    ∃ most, left.scale? twoThirds = some most ∧ rest.nanos = most.nanos + grace.nanos / 3 := by
  obtain ⟨most, hscale, -⟩ :=
    left.scale?_le (by omega) (by omega) (le_of_eq twoThirds_eq) (by omega)
  simp only [nextRenewal?, hscale] at h
  exact ⟨most, hscale, add?_eq_some.1 h⟩

/-- One tenth of a duration is right to half a nanosecond and a part of `2 ^ (-50)`. -/
lemma near_tenth {d tenth : Duration} (h : d.scale? oneTenth = some tenth) :
    10 * tenth.nanos ≤ d.nanos + 5 + d.nanos / 2 ^ 50 ∧
      d.nanos ≤ 10 * tenth.nanos + 5 + d.nanos / 2 ^ 50 := by
  have hexact := abs_le.1 (abs_scale?_sub_le (by rw [oneTenth_eq]; norm_num) h)
  rw [oneTenth_eq] at hexact
  push_cast at hexact
  have hnonneg : (0 : ℚ) ≤ d.nanos := by positivity
  have hlow : d.nanos * 2 ^ 50 ≤ (10 * tenth.nanos + 5) * 2 ^ 50 + d.nanos := by
    have hq : (d.nanos * 2 ^ 50 : ℚ) ≤ (10 * tenth.nanos + 5) * 2 ^ 50 + d.nanos := by
      linarith
    exact_mod_cast hq
  have hhigh : 10 * tenth.nanos * 2 ^ 50 ≤ (d.nanos + 5) * 2 ^ 50 + d.nanos := by
    have hq : (10 * tenth.nanos * 2 ^ 50 : ℚ) ≤ (d.nanos + 5) * 2 ^ 50 + d.nanos := by
      linarith
    exact_mod_cast hq
  omega

/-- Two thirds of a duration are right to half a nanosecond and a part of `2 ^ (-49)`. -/
lemma near_twoThirds {d most : Duration} (h : d.scale? twoThirds = some most) :
    3 * most.nanos ≤ 2 * d.nanos + 1 + d.nanos / 2 ^ 48 ∧
      2 * d.nanos ≤ 3 * most.nanos + 1 + d.nanos / 2 ^ 48 := by
  have hexact := abs_le.1 (abs_scale?_sub_le (by rw [twoThirds_eq]; norm_num) h)
  rw [twoThirds_eq] at hexact
  push_cast at hexact
  have hnonneg : (0 : ℚ) ≤ d.nanos := by positivity
  have hlow : 4 * d.nanos * 2 ^ 48 ≤ (6 * most.nanos + 3) * 2 ^ 48 + d.nanos := by
    have hq : (4 * d.nanos * 2 ^ 48 : ℚ) ≤ (6 * most.nanos + 3) * 2 ^ 48 + d.nanos := by
      linarith
    exact_mod_cast hq
  have hhigh : 6 * most.nanos * 2 ^ 48 ≤ (4 * d.nanos + 3) * 2 ^ 48 + d.nanos := by
    have hq : (6 * most.nanos * 2 ^ 48 : ℚ) ≤ (4 * d.nanos + 3) * 2 ^ 48 + d.nanos := by
      linarith
    exact_mod_cast hq
  have hlow' : 4 * d.nanos ≤ 6 * most.nanos + 3 + d.nanos / 2 ^ 48 := by omega
  have hhigh' : 6 * most.nanos ≤ 4 * d.nanos + 3 + d.nanos / 2 ^ 48 := by omega
  omega

end Watch
end LeaseKeeper
