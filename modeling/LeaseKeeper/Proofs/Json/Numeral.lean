/-
# Decimal numerals

The digits of a numeral have the number as their value, and digits without a zero in front are the
numeral of their value.
-/
import LeaseKeeper.Proofs.Json.Grammar
import Mathlib.Data.Int.Notation

namespace LeaseKeeper
namespace Text

lemma digit?_eq_some {c : Char} {d : ℕ} (h : digit? c = some d) :
    d < 10 ∧ c = Nat.digitChar d ∧ c.isDigit = true := by
  have hall : ∀ n < 58, 48 ≤ n → Char.ofNat n = Nat.digitChar (n - 48) := by decide
  unfold digit? at h
  split_ifs at h with hrange
  have hc : 48 ≤ c.toNat ∧ c.toNat ≤ 57 := hrange
  obtain rfl : c.toNat - 48 = d := Option.some.inj h
  have hchar : c = Nat.digitChar (c.toNat - 48) := by
    rw [← hall c.toNat (by omega) hc.1, Char.ofNat_toNat]
  refine ⟨by omega, hchar, ?_⟩
  simpa [Char.isDigit, UInt32.le_iff_toNat_le] using hc

lemma digit?_digitChar {d : ℕ} (h : d < 10) : digit? (Nat.digitChar d) = some d := by
  have hall : ∀ d < 10, digit? (Nat.digitChar d) = some d := by decide
  exact hall d h

lemma isDigit_of_digitsFrom? {acc n : ℕ} {cs : List Char} (h : digitsFrom? acc cs = some n) :
    ∀ c ∈ cs, c.isDigit = true := by
  induction cs generalizing acc with
  | nil => simp
  | cons c rest ih =>
    obtain ⟨d, hd, hrest⟩ := Option.bind_eq_some_iff.mp h
    intro c' hc'
    rcases List.mem_cons.mp hc' with rfl | hc'
    · exact (digit?_eq_some hd).2.2
    · exact ih hrest c' hc'

/-- Digits that follow a numeral. -/
lemma toDigits_append {acc n : ℕ} {cs : List Char} (hacc : 0 < acc)
    (h : digitsFrom? acc cs = some n) : Nat.toDigits 10 acc ++ cs = Nat.toDigits 10 n := by
  induction cs generalizing acc with
  | nil =>
    obtain rfl := Option.some.inj h
    rw [List.append_nil]
  | cons c rest ih =>
    obtain ⟨d, hd, hrest⟩ := Option.bind_eq_some_iff.mp h
    obtain ⟨hlt, rfl, -⟩ := digit?_eq_some hd
    have hstep : Nat.toDigits 10 acc ++ [Nat.digitChar d] = Nat.toDigits 10 (acc * 10 + d) := by
      rw [← Nat.toDigits_of_lt_base hlt, Nat.toDigits_append_toDigits (by decide) hacc hlt,
        Nat.mul_comm]
    rw [List.append_cons, hstep]
    exact ih (by omega) hrest

/-- Digits without a zero in front are the numeral of their value. -/
lemma eq_toDigits {cs : List Char} {n : ℕ} (hzero : cs.head? = some '0' → cs = ['0'])
    (h : digits? cs = some n) : cs = Nat.toDigits 10 n := by
  cases cs with
  | nil => cases h
  | cons c rest =>
    obtain ⟨d, hd, hrest⟩ := Option.bind_eq_some_iff.mp h
    obtain ⟨hlt, rfl, -⟩ := digit?_eq_some hd
    rw [Nat.zero_mul, Nat.zero_add] at hrest
    cases d with
    | zero =>
      obtain ⟨-, rfl⟩ := List.cons.inj (hzero rfl)
      obtain rfl := Option.some.inj hrest
      rfl
    | succ d =>
      rw [← toDigits_append (Nat.succ_pos d) hrest, Nat.toDigits_of_lt_base hlt]
      rfl

lemma digitsFrom?_toDigits (n : ℕ) : digitsFrom? 0 (Nat.toDigits 10 n) = some n := by
  induction n using Nat.strongRecOn with
  | _ n ih =>
    by_cases hlt : n < 10
    · rw [Nat.toDigits_of_lt_base hlt]
      simp [digitsFrom?, digit?_digitChar hlt]
    · have hle : 10 ≤ n := Nat.le_of_not_lt hlt
      have hmod : n % 10 < 10 := Nat.mod_lt _ (by decide)
      rw [Nat.toDigits_of_base_le (by decide) hle, digitsFrom?_append, ih (n / 10) (by omega),
        Option.bind_some]
      simp only [digitsFrom?, digit?_digitChar hmod, Option.bind_some]
      congr 1
      omega

/-- A whole number is written as its digits, with a minus sign in front if it is below zero. -/
lemma exists_toList_toString (i : ℤ) : ∃ sign, (sign = [] ∨ sign = ['-']) ∧
    (toString i).toList = sign ++ Nat.toDigits 10 i.natAbs := by
  cases i with
  | ofNat n => exact ⟨[], Or.inl rfl, Nat.toList_repr⟩
  | negSucc n =>
    refine ⟨['-'], Or.inr rfl, ?_⟩
    rw [Int.natAbs_negSucc, ← Nat.toList_repr]
    exact String.toList_append

lemma digits?_toDigits (n : ℕ) : digits? (Nat.toDigits 10 n) = some n := by
  obtain ⟨c, rest, hcons⟩ := List.exists_cons_of_ne_nil (Nat.toDigits_ne_nil (n := n) (b := 10))
  have hvalue := digitsFrom?_toDigits n
  rw [hcons] at hvalue ⊢
  exact hvalue

end Text

namespace Json

/-- A number of which all characters are digits has no sign, no fraction and no exponent. -/
lemma IsNumber.isWhole {l : List Char} (h : IsNumber l) (hdigits : ∀ c ∈ l, c.isDigit = true) :
    IsWhole l := by
  obtain @⟨sign, whole, fraction, exponent, hsign, hwhole, hfraction, hexponent⟩ := h
  obtain rfl : sign = [] := by
    rcases hsign with rfl | rfl
    · rfl
    · exact absurd (hdigits '-' (by simp)) (by decide)
  obtain rfl : fraction = [] := by
    rcases hfraction with rfl | ⟨digits, rfl, -⟩
    · rfl
    · exact absurd (hdigits '.' (by simp)) (by decide)
  obtain rfl : exponent = [] := by
    rcases hexponent with rfl | ⟨m, sign, digits, rfl, hm, -⟩
    · rfl
    · have hmark := hdigits m (by simp)
      rcases hm with rfl | rfl <;> exact absurd hmark (by decide)
  simpa using hwhole

/-- A number without a sign in front. -/
inductive IsMagnitude : List Char → Prop
  | intro {whole fraction exponent : List Char} (hwhole : IsWhole whole)
      (hfraction : IsFraction fraction) (hexponent : IsExponent exponent) :
      IsMagnitude (whole ++ (fraction ++ exponent))

lemma IsMagnitude.signed {sign l : List Char} (h : IsMagnitude l)
    (hsign : sign = [] ∨ sign = ['-']) : IsNumber (sign ++ l) := by
  obtain ⟨hwhole, hfraction, hexponent⟩ := h
  exact .intro hsign hwhole hfraction hexponent

lemma IsWhole.isMagnitude {l : List Char} (h : IsWhole l) : IsMagnitude l := by
  have hmagnitude : IsMagnitude (l ++ ([] ++ [])) := .intro h (Or.inl rfl) (Or.inl rfl)
  simpa using hmagnitude

/-- A numeral has no zero in front. -/
lemma isWhole_toDigits (n : ℕ) : IsWhole (Nat.toDigits 10 n) := by
  refine ⟨⟨Nat.toDigits_ne_nil, fun c hc => Nat.isDigit_of_mem_toDigits (by decide) (by decide) hc⟩,
    ?_⟩
  induction n using Nat.strongRecOn with
  | _ n ih =>
    intro hzero
    by_cases hlt : n < 10
    · rw [Nat.toDigits_of_lt_base hlt] at hzero ⊢
      rw [Option.some.inj hzero]
    · have hle : 10 ≤ n := Nat.le_of_not_lt hlt
      rw [Nat.toDigits_of_base_le (by decide) hle, List.head?_append_of_ne_nil _
        Nat.toDigits_ne_nil] at hzero
      -- The digits in front would be those of zero.
      have hfront := ih (n / 10) (by omega) hzero
      have hvalue := Text.digits?_toDigits (n / 10)
      rw [hfront] at hvalue
      have hdiv : 0 = n / 10 := Option.some.inj hvalue
      omega

lemma isDigits_toDigits (n : ℕ) : IsDigits (Nat.toDigits 10 n) := (isWhole_toDigits n).1

/-- A number that is not zero does not begin with a zero. -/
lemma head?_toDigits_ne {n : ℕ} (h : n ≠ 0) : (Nat.toDigits 10 n).head? ≠ some '0' := by
  intro hzero
  have hvalue := Text.digits?_toDigits n
  rw [(isWhole_toDigits n).2 hzero] at hvalue
  exact h (Option.some.inj hvalue).symm

lemma isNumber_toString (i : ℤ) : IsNumber (toString i).toList := by
  obtain ⟨sign, hsign, hi⟩ := Text.exists_toList_toString i
  rw [hi]
  exact (isWhole_toDigits i.natAbs).isMagnitude.signed hsign

end Json
end LeaseKeeper
