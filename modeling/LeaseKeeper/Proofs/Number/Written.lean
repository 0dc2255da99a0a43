/-
# How doubles are written

A finite double is written as JSON writes numbers.  The digits in front of the point are digits
without a zero in front of them, because the shortest decimal number that is rounded to a magnitude
other than zero is not zero itself.
-/
import LeaseKeeper.Number.Shortest
import LeaseKeeper.Proofs.Json.Numeral

namespace LeaseKeeper

open Json (IsDigits IsExponent IsFraction IsMagnitude IsNumber IsWhole)

/-! ### Digits that are not zero -/

namespace Double

variable {d : Double}

/-- Zero is not rounded to any other magnitude. -/
lemma takes_zero (h : d.significand ≠ 0) : d.takes 0 = false := by
  have hleast : 0 < d.least := by
    unfold least
    dsimp only
    rw [Nat.shiftLeft_eq]
    split_ifs
    · exact Nat.mul_pos (by omega) (Nat.two_pow_pos _)
    · exact Nat.mul_pos (by omega) (Nat.two_pow_pos _)
  have hlow : 0 < d.least * Nat.pow 10 scale := Nat.mul_pos hleast (by decide +kernel)
  unfold takes
  generalize d.least * Nat.pow 10 scale = low at hlow
  simp [Nat.ne_of_gt hlow]

/-- A candidate is not zero. -/
lemma ne_zero_of_candidate? (h : d.significand ≠ 0) {place k : ℕ}
    (hk : d.candidate? place = some k) : k ≠ 0 := by
  unfold candidate? at hk
  dsimp only at hk
  generalize d.units * Nat.pow 10 scale / (Nat.pow 10 place * unitsPerOne) = lower at hk
  have hlower : d.takes (lower * Nat.pow 10 place) = true → lower ≠ 0 := by
    rintro htakes rfl
    rw [Nat.zero_mul, takes_zero h] at htakes
    cases htakes
  split_ifs at hk with hboth hnearer hl hu
  · obtain rfl := Option.some.inj hk
    exact hlower (Bool.and_eq_true_iff.mp hboth).1
  · obtain rfl := Option.some.inj hk
    exact Nat.succ_ne_zero _
  · obtain rfl := Option.some.inj hk
    exact hlower hl
  · obtain rfl := Option.some.inj hk
    exact Nat.succ_ne_zero _

/-- The magnitude on a grid that is fine enough is not zero. -/
lemma search_ne_zero (h : d.significand ≠ 0) {count : ℕ}
    (hcount : Nat.pow 10 (count - 1) * unitsPerOne ≤ d.units * Nat.pow 10 scale) (more n : ℕ) :
    (d.search count more (n + 1)).digits ≠ 0 := by
  induction more generalizing n with
  | zero =>
    have hstep : 0 < Nat.pow 10 (count - (n + 1)) * unitsPerOne :=
      Nat.mul_pos (Nat.pow_pos (by decide)) (by decide +kernel)
    have hpow : Nat.pow 10 (count - (n + 1)) ≤ Nat.pow 10 (count - 1) :=
      Nat.pow_le_pow_right (by decide) (by omega)
    have hle : Nat.pow 10 (count - (n + 1)) * unitsPerOne ≤ d.units * Nat.pow 10 scale :=
      Nat.le_trans (Nat.mul_le_mul_right _ hpow) hcount
    exact Nat.ne_of_gt (Nat.div_pos hle hstep)
  | succ more ih =>
    unfold search
    split
    · rename_i k hk
      exact ne_zero_of_candidate? h hk
    · exact ih (n + 1)

lemma dropZeros_ne_zero (fuel : ℕ) {x : Decimal} (h : x.digits ≠ 0) :
    (dropZeros fuel x).digits ≠ 0 := by
  induction fuel generalizing x with
  | zero => exact h
  | succ fuel ih =>
    unfold dropZeros
    split_ifs with hdrop
    · have hdiv : x.digits / 10 ≠ 0 := by omega
      exact ih hdiv
    · exact h

lemma pow_digitCount_le {n : ℕ} (h : n ≠ 0) : Nat.pow 10 (digitCount n - 1) ≤ n := by
  by_contra hlt
  have hpos : 0 < digitCount n := List.length_pos_of_ne_nil Nat.toDigits_ne_nil
  rcases Nat.eq_zero_or_pos (digitCount n - 1) with hzero | hmore
  · rw [hzero] at hlt
    exact hlt (Nat.pos_of_ne_zero h)
  · have hle : digitCount n ≤ digitCount n - 1 :=
      (Nat.length_toDigits_le_iff (by decide) hmore).mpr (Nat.lt_of_not_le hlt)
    omega

/-- The shortest decimal number for a magnitude that is not zero. -/
lemma shortest_ne_zero (h : d.significand ≠ 0) : d.shortest.digits ≠ 0 := by
  have hunits : 4 ≤ d.units := by
    rw [units, Nat.shiftLeft_eq]
    exact Nat.le_trans (by omega) (Nat.le_mul_of_pos_right _ (Nat.two_pow_pos _))
  have hunit : 0 < unitsPerOne := by decide +kernel
  have hone : unitsPerOne ≤ d.units * Nat.pow 10 scale := by
    have hfour : unitsPerOne ≤ 4 * Nat.pow 10 scale := by decide +kernel
    exact Nat.le_trans hfour (Nat.mul_le_mul_right _ hunits)
  refine dropZeros_ne_zero 20 (search_ne_zero h ?_ 17 0)
  generalize d.units * Nat.pow 10 scale = value at hone
  have hcount := pow_digitCount_le (Nat.ne_of_gt (Nat.div_pos hone hunit))
  exact Nat.le_trans (Nat.mul_le_mul_right _ hcount) (Nat.div_mul_le_self value unitsPerOne)

end Double

/-! ### Decimal numbers -/

namespace Decimal

lemma isDigits_of_subset {l l' : List Char} (h : IsDigits l) (hne : l' ≠ []) (hsub : l' ⊆ l) :
    IsDigits l' := ⟨hne, fun c hc => h.2 c (hsub hc)⟩

/-- Digits with zeros around them. -/
lemma isDigits_padded {l l' : List Char} (h : IsDigits l) (hsub : l ⊆ l')
    (hpad : ∀ c ∈ l', c ∈ l ∨ c = '0') : IsDigits l' := by
  refine ⟨List.ne_nil_of_mem (hsub (List.head_mem h.1)), fun c hc => ?_⟩
  rcases hpad c hc with hc | rfl
  · exact h.2 c hc
  · decide

/-- What the point or the first digit leaves of the digits is the fraction of a number. -/
lemma isFraction_drop {n k : ℕ} (hk : k < (Nat.toDigits 10 n).length) :
    IsFraction ('.' :: (Nat.toDigits 10 n).drop k) := by
  have hrest : (Nat.toDigits 10 n).drop k ≠ [] := by
    rw [← List.length_pos_iff, List.length_drop]
    omega
  exact Or.inr ⟨_, rfl, isDigits_of_subset (Json.isDigits_toDigits n) hrest (List.drop_subset _ _)⟩

lemma isFraction_zero : IsFraction ['.', '0'] := Or.inr ⟨['0'], rfl, by simp [IsDigits]⟩

lemma isWhole_of_head? {l : List Char} (h : IsDigits l) (hhead : l.head? ≠ some '0') :
    IsWhole l := ⟨h, fun hzero => absurd hzero hhead⟩

variable {x : Decimal}

/-- The first digits of a number that is not zero are the whole part of a number. -/
lemma isWhole_take {n : ℕ} (h : n ≠ 0) {k : ℕ} (hk : k ≠ 0) :
    IsWhole ((Nat.toDigits 10 n).take k) := by
  have hdigits := Json.isDigits_toDigits n
  have hhead : ((Nat.toDigits 10 n).take k).head? = (Nat.toDigits 10 n).head? := by
    rw [List.head?_take, if_neg hk]
  refine isWhole_of_head? (isDigits_of_subset hdigits ?_ (List.take_subset _ _)) ?_
  · exact fun hnil => (List.take_eq_nil_iff.mp hnil).elim hk hdigits.1
  · rw [hhead]
    exact Json.head?_toDigits_ne h

lemma isMagnitude_positional (h : x.digits ≠ 0) : IsMagnitude x.positional.toList := by
  have hdigits := Json.isDigits_toDigits x.digits
  have hhead := Json.head?_toDigits_ne h
  unfold positional
  rw [Nat.toList_repr]
  dsimp only
  split_ifs with hwhole hpoint
  · have hpadded : IsDigits (Nat.toDigits 10 x.digits ++ List.replicate x.exponent.toNat '0') :=
      isDigits_padded hdigits (List.subset_append_left _ _) fun c hc =>
        (List.mem_append.mp hc).imp_right List.eq_of_mem_replicate
    rw [String.toList_append, String.toList_ofList]
    refine .intro (isWhole_of_head? hpadded ?_) isFraction_zero (Or.inl rfl)
    rwa [List.head?_append_of_ne_nil _ hdigits.1]
  · obtain ⟨k, hk⟩ : ∃ k, ((Nat.toDigits 10 x.digits).length + x.exponent).toNat = k := ⟨_, rfl⟩
    -- The point stands among the digits.
    have hne : k ≠ 0 := by omega
    have hlt : k < (Nat.toDigits 10 x.digits).length := by omega
    have hmagnitude := IsMagnitude.intro (isWhole_take h hne) (isFraction_drop hlt) (Or.inl rfl)
    rw [hk]
    simpa using hmagnitude
  · have hfraction : IsDigits (List.replicate
        (-((Nat.toDigits 10 x.digits).length + x.exponent)).toNat '0' ++
          Nat.toDigits 10 x.digits) :=
      isDigits_padded hdigits (List.subset_append_right _ _) fun c hc =>
        (List.mem_append.mp hc).symm.imp_right List.eq_of_mem_replicate
    have hmagnitude := IsMagnitude.intro (Json.isWhole_toDigits 0)
      (Or.inr ⟨_, rfl, hfraction⟩) (Or.inl rfl)
    simpa using hmagnitude

lemma isMagnitude_scientific (h : x.digits ≠ 0) : IsMagnitude x.scientific.toList := by
  have hdigits := Json.isDigits_toDigits x.digits
  unfold scientific
  rw [Nat.toList_repr]
  dsimp only
  obtain ⟨sign, hsign, hpower⟩ :=
    Text.exists_toList_toString ((Nat.toDigits 10 x.digits).length + x.exponent - 1)
  have hexponent : IsExponent ('e' :: (sign ++ Nat.toDigits 10
      ((Nat.toDigits 10 x.digits).length + x.exponent - 1).natAbs)) :=
    Or.inr ⟨'e', sign, _, rfl, Or.inl rfl, hsign.imp_right Or.inr, Json.isDigits_toDigits _⟩
  have hwhole := isWhole_take h Nat.one_ne_zero
  split_ifs with hone
  · have hmagnitude := IsMagnitude.intro hwhole (Or.inl rfl) hexponent
    simp only [String.toList_append, String.toList_ofList, hpower]
    simpa using hmagnitude
  · have hlt : 1 < (Nat.toDigits 10 x.digits).length := by
      have hpos := List.length_pos_of_ne_nil hdigits.1
      omega
    have hmagnitude := IsMagnitude.intro hwhole (isFraction_drop hlt) hexponent
    simp only [String.toList_append, String.toList_ofList, hpower]
    simpa using hmagnitude

/-- A decimal number that is not zero is written as a number, whatever the layout. -/
lemma isMagnitude_text (h : x.digits ≠ 0) (layout : Layout) :
    IsMagnitude (x.text layout).toList := by
  unfold text
  dsimp only
  split_ifs
  · exact isMagnitude_positional h
  · exact isMagnitude_scientific h

end Decimal

/-- A finite double is written as a number of JSON, whatever the layout. -/
theorem Double.isNumber_text {d : Double} (h : d.isFinite = true) (layout : Layout) :
    IsNumber (d.text layout).toList := by
  have hsign : (if d.isNegative then "-" else "").toList = [] ∨
      (if d.isNegative then "-" else "").toList = ['-'] := by
    split_ifs
    · exact Or.inr rfl
    · exact Or.inl rfl
  rw [text, String.toList_append]
  refine IsMagnitude.signed ?_ hsign
  split_ifs with hzero
  · exact .intro (Json.isWhole_toDigits 0) Decimal.isFraction_zero (Or.inl rfl)
  · have hne : d.significand ≠ 0 := by
      intro hsignificand
      simp [isZero, hsignificand, h] at hzero
    exact Decimal.isMagnitude_text (shortest_ne_zero hne) layout

end LeaseKeeper
