/-
# How a number of seconds is written

With white space around it, perhaps with a plus sign, and in one or more digits, as many zeros in
front as one likes, whose value is below `2 ^ 64`.  A text is read as a number of seconds exactly
when it is written so, and then it is the numeral of this number but for the zeros, the sign and the
white space.
-/
import LeaseKeeper.Proofs.Json.Numeral
import LeaseKeeper.Proofs.Text.Blank
import LeaseKeeper.Settings.Environment

namespace LeaseKeeper

/-! ### Digits -/

namespace Text

lemma digit?_of_isDigit {c : Char} (h : c.isDigit = true) :
    digit? c = some (c.toNat - '0'.toNat) := by
  have hrange : '0' ≤ c ∧ c ≤ '9' := by
    simpa [Char.isDigit, Char.le_def] using h
  rw [digit?, if_pos hrange]

/-- Digits that follow a number have a value exactly if they are digits. -/
lemma digitsFrom?_eq_some {acc n : ℕ} {cs : List Char} :
    digitsFrom? acc cs = some n ↔
      (∀ c ∈ cs, c.isDigit = true) ∧ Nat.ofDigitChars 10 cs acc = n := by
  induction cs generalizing acc with
  | nil => simp [digitsFrom?]
  | cons c rest ih =>
    by_cases hc : c.isDigit = true
    · rw [digitsFrom?, digit?_of_isDigit hc, Option.bind_some, ih, Nat.mul_comm acc]
      simp [hc, Nat.ofDigitChars]
    · have hnone : digit? c = none := by
        rw [Option.eq_none_iff_forall_ne_some]
        exact fun d hd => hc (digit?_eq_some hd).2.2
      simp [digitsFrom?, hnone, hc]

lemma digits?_eq_some {n : ℕ} {cs : List Char} :
    digits? cs = some n ↔ Json.IsDigits cs ∧ Nat.ofDigitChars 10 cs 0 = n := by
  cases cs with
  | nil => simp [Json.IsDigits]
  | cons c rest =>
    have hdigits : digits? (c :: rest) = digitsFrom? 0 (c :: rest) := rfl
    simp [hdigits, digitsFrom?_eq_some, Json.IsDigits]

lemma word?_eq_some {n : UInt64} {cs : List Char} :
    word? cs = some n ↔ Json.IsDigits cs ∧ Nat.ofDigitChars 10 cs 0 = n.toNat := by
  constructor
  · intro h
    obtain ⟨m, hm, hfits⟩ := Option.bind_eq_some_iff.mp h
    obtain ⟨hdigits, rfl⟩ := digits?_eq_some.mp hm
    split_ifs at hfits
    obtain rfl := Option.some.inj hfits
    exact ⟨hdigits, (UInt64.toNat_ofNatLT ..).symm⟩
  · rintro ⟨hdigits, hvalue⟩
    have hlt : n.toNat < UInt64.size := n.toNat_lt_size
    rw [word?, digits?_eq_some.mpr ⟨hdigits, hvalue⟩, Option.bind_some, dif_pos hlt]
    exact congrArg some (UInt64.ofNatLT_toNat n)

/-- A zero in front of digits makes no difference to their value. -/
lemma digits?_zero_cons {cs : List Char} (hne : cs ≠ []) : digits? ('0' :: cs) = digits? cs := by
  obtain ⟨c, rest, rfl⟩ := List.exists_cons_of_ne_nil hne
  rfl

/-- Digits are the numeral of their value, with zeros in front. -/
lemma exists_zeros {n : ℕ} {cs : List Char} (h : digits? cs = some n) :
    ∃ zeros, cs = List.replicate zeros '0' ++ Nat.toDigits 10 n := by
  induction cs with
  | nil => cases h
  | cons c rest ih =>
    by_cases hzero : c = '0' ∧ rest ≠ []
    · obtain ⟨rfl, hne⟩ := hzero
      rw [digits?_zero_cons hne] at h
      obtain ⟨zeros, hrest⟩ := ih h
      refine ⟨zeros + 1, ?_⟩
      rw [hrest, List.replicate_succ, List.cons_append]
    · refine ⟨0, eq_toDigits (fun hc => ?_) h⟩
      obtain rfl := Option.some.inj hc
      rw [not_not.mp fun hne => hzero ⟨rfl, hne⟩]

lemma digits?_zeros (zeros n : ℕ) :
    digits? (List.replicate zeros '0' ++ Nat.toDigits 10 n) = some n := by
  induction zeros with
  | zero => exact digits?_toDigits n
  | succ zeros ih =>
    have hne : List.replicate zeros '0' ++ Nat.toDigits 10 n ≠ [] :=
      List.append_ne_nil_of_right_ne_nil _ Nat.toDigits_ne_nil
    rw [List.replicate_succ, List.cons_append, digits?_zero_cons hne]
    exact ih

lemma isBlank_of_isDigit {c : Char} (h : c.isDigit = true) : isBlank c = false := by
  have hrange : 48 ≤ c.toNat ∧ c.toNat ≤ 57 := by
    simpa [Char.isDigit, UInt32.le_iff_toNat_le] using h
  simp [isBlank]
  omega

end Text

namespace Seconds

/-- How a number of seconds may be written. -/
inductive Spells (raw : String) (n : UInt64) : Prop
  | intro {sign digits : List Char}
      (htrim : Text.IsTrimmed Text.isBlank raw.toList (sign ++ digits))
      (hsign : sign = [] ∨ sign = ['+']) (hdigits : Json.IsDigits digits)
      (hvalue : Nat.ofDigitChars 10 digits 0 = n.toNat)

/-- A sign is taken off, and nothing but a sign. -/
lemma exists_dropSign (cs : List Char) :
    ∃ sign, cs = sign ++ dropSign cs ∧ (sign = [] ∨ sign = ['+']) := by
  unfold dropSign
  split
  · exact ⟨['+'], rfl, Or.inr rfl⟩
  · exact ⟨[], rfl, Or.inl rfl⟩

lemma dropSign_append {sign digits : List Char} (hsign : sign = [] ∨ sign = ['+'])
    (hdigits : Json.IsDigits digits) : dropSign (sign ++ digits) = digits := by
  rcases hsign with rfl | rfl
  · obtain ⟨hne, hall⟩ := hdigits
    obtain ⟨c, rest, rfl⟩ := List.exists_cons_of_ne_nil hne
    have hplus : c ≠ '+' := by
      rintro rfl
      exact absurd (hall '+' (List.mem_cons_self ..)) (by decide)
    rw [List.nil_append, dropSign]
    rintro rest' h
    exact hplus (List.cons.inj h).1
  · rfl

/-- A text is read as a number of seconds exactly when it spells this number. -/
lemma parse?_eq_some {raw : String} {n : UInt64} : parse? raw = some n ↔ Spells raw n := by
  constructor
  · intro h
    obtain ⟨hdigits, hvalue⟩ := Text.word?_eq_some.mp h
    obtain ⟨sign, hsplit, hsign⟩ := exists_dropSign (Text.trimBoth Text.isBlank raw.toList)
    have htrim := Text.isTrimmed_trimBoth Text.isBlank raw.toList
    rw [hsplit] at htrim
    exact .intro htrim hsign hdigits hvalue
  · rintro ⟨htrim, hsign, hdigits, hvalue⟩
    rw [parse?, ← htrim.eq_trimBoth, dropSign_append hsign hdigits]
    exact Text.word?_eq_some.mpr ⟨hdigits, hvalue⟩

/-- White space around a sign and digits does not belong to them. -/
lemma isTrimmed_signed {cs front sign digits back : List Char}
    (hcs : cs = front ++ (sign ++ digits ++ back))
    (hfront : ∀ c ∈ front, Text.isBlank c = true) (hback : ∀ c ∈ back, Text.isBlank c = true)
    (hsign : sign = [] ∨ sign = ['+']) (hdigits : Json.IsDigits digits) :
    Text.IsTrimmed Text.isBlank cs (sign ++ digits) := by
  have hall : ∀ c ∈ sign ++ digits, Text.isBlank c = false := by
    intro c hc
    rcases List.mem_append.mp hc with hc | hc
    · rcases hsign with rfl | rfl
      · cases hc
      · rw [List.mem_singleton.mp hc]
        rfl
    · exact Text.isBlank_of_isDigit (hdigits.2 c hc)
  exact
    { around := ⟨front, back, hcs, hfront, hback⟩
      first := fun c hc => hall c (List.mem_of_mem_head? hc)
      last := fun c hc => hall c (List.mem_of_mem_getLast? hc) }

/-- A number written as its numeral, with zeros and perhaps a plus sign in front, and white space
around. -/
inductive IsNumeral (raw : String) (n : UInt64) : Prop
  | intro {front sign back : List Char} {zeros : ℕ}
      (htext : raw.toList =
        front ++ (sign ++ (List.replicate zeros '0' ++ Nat.toDigits 10 n.toNat) ++ back))
      (hfront : ∀ c ∈ front, Text.isBlank c = true) (hback : ∀ c ∈ back, Text.isBlank c = true)
      (hsign : sign = [] ∨ sign = ['+'])

/-- The texts that spell a number are its numerals. -/
lemma spells_iff {raw : String} {n : UInt64} : Spells raw n ↔ IsNumeral raw n := by
  constructor
  · rintro ⟨htrim, hsign, hdigits, hvalue⟩
    obtain ⟨front, back, htext, hfront, hback⟩ := htrim.around
    obtain ⟨zeros, rfl⟩ := Text.exists_zeros (Text.digits?_eq_some.mpr ⟨hdigits, hvalue⟩)
    exact .intro htext hfront hback hsign
  · rintro @⟨front, sign, back, zeros, htext, hfront, hback, hsign⟩
    obtain ⟨hdigits, hvalue⟩ := Text.digits?_eq_some.mp (Text.digits?_zeros zeros n.toNat)
    exact .intro (isTrimmed_signed htext hfront hback hsign hdigits) hsign hdigits hvalue

/-- A sign alone, white space between digits and digits of other scripts spell nothing. -/
example : parse? "+" = none ∧ parse? "1 2" = none ∧ parse? "٣" = none := by decide +kernel

end Seconds
end LeaseKeeper
