/-
# Strings and numbers as they are read

Within a string the reader has read the characters whose spellings it has passed, and within a
number it knows how far the number has come.
-/
import LeaseKeeper.Proofs.Json.Grammar
import LeaseKeeper.Proofs.Text.Utf8
import Mathlib.Data.List.Chain

namespace LeaseKeeper
namespace Json

/-! ### Characters and their bytes -/

lemma utf8EncodeChar_of_lt {c : Char} (h : c.toNat < 0x80) :
    String.utf8EncodeChar c = [UInt8.ofNat c.toNat] := by
  have hle : c.val.toNat ≤ 127 := Nat.le_of_lt_succ h
  simp only [String.utf8EncodeChar, if_pos hle]
  rfl

/-- The bytes of a character that is no ASCII character are none of an ASCII character. -/
lemma le_of_mem_utf8EncodeChar {c : Char} (h : 0x80 ≤ c.toNat) {b : UInt8}
    (hb : b ∈ String.utf8EncodeChar c) : 0x80 ≤ b.toNat := by
  have hle : ¬ c.val.toNat ≤ 127 := Nat.not_le_of_lt h
  simp only [String.utf8EncodeChar, if_neg hle] at hb
  generalize c.val.toNat = v at hb
  have htail : ∀ n, 0x80 ≤ (UInt8.ofNat (n % 64 + 128)).toNat := by
    intro n
    rw [Text.toNat_ofNat_of_lt (by omega)]
    omega
  split_ifs at hb
  · simp only [List.mem_cons, List.not_mem_nil, or_false] at hb
    rcases hb with rfl | rfl
    · rw [Text.toNat_ofNat_of_lt (by omega)]
      omega
    · exact htail v
  · simp only [List.mem_cons, List.not_mem_nil, or_false] at hb
    rcases hb with rfl | rfl | rfl
    · rw [Text.toNat_ofNat_of_lt (by omega)]
      omega
    · exact htail (v / 64)
    · exact htail v
  · simp only [List.mem_cons, List.not_mem_nil, or_false] at hb
    rcases hb with rfl | rfl | rfl | rfl
    · rw [Text.toNat_ofNat_of_lt (by omega)]
      omega
    · exact htail (v / 4096)
    · exact htail (v / 64)
    · exact htail v

namespace Reading

/-- A string of which these characters have been read. -/
def of (cs : List Char) : Reading := ⟨some (cs.flatMap String.utf8EncodeChar).reverse, none⟩

@[simp] lemma of_nil : of [] = start := rfl

lemma push_of (cs : List Char) (c : Char) :
    (of cs).push (String.utf8EncodeChar c) = of (cs ++ [c]) := by
  simp [push, of]

lemma text?_of (cs : List Char) : (of cs).text? = some (String.ofList cs) := by
  have htext := Text.ofBytes?_bytes (String.ofList cs)
  rw [Text.bytes, String.toList_ofList] at htext
  simp [text?, of, htext]

lemma pushUnit_of (cs : List Char) (c : Char) : (of cs).pushUnit c.toNat = of (cs ++ [c]) := by
  have hvalid : c.toNat < 0xd800 ∨ 0xdfff < c.toNat ∧ c.toNat < 0x110000 := c.valid
  have hhigh : isHigh c.toNat = false := by
    simp only [isHigh, Bool.and_eq_false_iff, decide_eq_false_iff_not]
    omega
  have hlow : isLow c.toNat = false := by
    simp only [isLow, Bool.and_eq_false_iff, decide_eq_false_iff_not]
    omega
  rw [← push_of, ← Char.ofNat_toNat c]
  simp [pushUnit, of, hhigh, hlow]

lemma pushUnit_pair {c : Char} {high low : ℕ} (cs : List Char)
    (hhigh : 0xd800 ≤ high ∧ high ≤ 0xdbff) (hlow : 0xdc00 ≤ low ∧ low ≤ 0xdfff)
    (hc : c.toNat = 0x10000 + (high - 0xd800) * 0x400 + (low - 0xdc00)) :
    ((of cs).pushUnit high).pushUnit low = of (cs ++ [c]) := by
  have hishigh : isHigh high = true := by simpa [isHigh] using hhigh
  have hislow : isLow low = true := by simpa [isLow] using hlow
  rw [← push_of, ← Char.ofNat_toNat c, hc]
  simp [pushUnit, of, hishigh, hislow]

end Reading

namespace Lexer

/-- Takes the bytes of characters. -/
def read? (l : Lexer) (cs : List Char) : Option Lexer :=
  (cs.flatMap String.utf8EncodeChar).foldlM push? l

@[simp] lemma read?_nil (l : Lexer) : l.read? [] = some l := rfl

lemma read?_append (l : Lexer) (cs cs' : List Char) :
    l.read? (cs ++ cs') = (l.read? cs).bind fun l => l.read? cs' := by
  rw [read?, List.flatMap_append, List.foldlM_append]
  rfl

lemma read?_cons (l : Lexer) {c : Char} (h : c.toNat < 0x80) (cs : List Char) :
    l.read? (c :: cs) = (l.push? (UInt8.ofNat c.toNat)).bind fun l => l.read? cs := by
  rw [read?, List.flatMap_cons, utf8EncodeChar_of_lt h]
  rfl

variable {rev : List Token}

/-! ### Strings -/

lemma foldlM_plain {bs : List UInt8} (rev : List Token) (acc : List UInt8)
    (h : ∀ b ∈ bs, (b == 0x22) = false ∧ (b == 0x5c) = false ∧ ¬ b.toNat < 0x20) :
    bs.foldlM push? ⟨.string ⟨some acc, none⟩, rev⟩ =
      some ⟨.string ⟨some (bs.reverse ++ acc), none⟩, rev⟩ := by
  induction bs generalizing acc with
  | nil => rfl
  | cons b rest ih =>
    obtain ⟨hquote, hslash, hcontrol⟩ := h b (List.mem_cons_self ..)
    have hpush : push? ⟨.string ⟨some acc, none⟩, rev⟩ b =
        some ⟨.string ⟨some (b :: acc), none⟩, rev⟩ := by
      simp [push?, hquote, hslash, hcontrol, Reading.push]
    rw [List.foldlM_cons, hpush]
    change rest.foldlM push? ⟨.string ⟨some (b :: acc), none⟩, rev⟩ = _
    rw [ih (b :: acc) fun b' hb' => h b' (List.mem_cons_of_mem _ hb'), List.reverse_cons,
      List.append_assoc]
    rfl

lemma read?_plain {c : Char} (cs : List Char) (hc : 0x20 ≤ c.toNat) (hquote : c ≠ '"')
    (hslash : c ≠ '\\') :
    (⟨.string (.of cs), rev⟩ : Lexer).read? [c] = some ⟨.string (.of (cs ++ [c])), rev⟩ := by
  have hbytes : ∀ b ∈ String.utf8EncodeChar c,
      (b == 0x22) = false ∧ (b == 0x5c) = false ∧ ¬ b.toNat < 0x20 := by
    have hne : ∀ {b b' : UInt8}, b.toNat ≠ b'.toNat → (b == b') = false := by
      intro b b' hb
      exact beq_eq_false_iff_ne.mpr fun heq => hb (congrArg UInt8.toNat heq)
    intro b hb
    -- The one byte of an ASCII character is its number; other characters have no such bytes.
    by_cases hascii : c.toNat < 0x80
    · rw [utf8EncodeChar_of_lt hascii] at hb
      have hnat : b.toNat = c.toNat := by
        rw [List.mem_singleton.mp hb, Text.toNat_ofNat_of_lt (by omega)]
      have hquote' : c.toNat ≠ 0x22 := fun heq => hquote (Char.toNat_inj.mp heq)
      have hslash' : c.toNat ≠ 0x5c := fun heq => hslash (Char.toNat_inj.mp heq)
      exact ⟨hne (by rw [hnat]; exact hquote'), hne (by rw [hnat]; exact hslash'), by omega⟩
    · have hle := le_of_mem_utf8EncodeChar (Nat.le_of_not_lt hascii) hb
      exact ⟨hne (Nat.ne_of_gt (Nat.lt_of_lt_of_le (by decide) hle)),
        hne (Nat.ne_of_gt (Nat.lt_of_lt_of_le (by decide) hle)), by omega⟩
  have hread := foldlM_plain rev (cs.flatMap String.utf8EncodeChar).reverse hbytes
  simpa [read?, Reading.of] using hread

lemma read?_short {c letter : Char} (r : Reading) (h : (letter, c) ∈ shortEscapes) :
    (⟨.string r, rev⟩ : Lexer).read? ['\\', letter] =
      some ⟨.string (r.push (String.utf8EncodeChar c)), rev⟩ := by
  have hall : ∀ p ∈ shortEscapes, p.1.toNat < 0x80 ∧
      (UInt8.ofNat p.1.toNat == 0x75) = false ∧
      (named? (UInt8.ofNat p.1.toNat)).map ([·]) = some (String.utf8EncodeChar p.2) := by
    decide
  obtain ⟨hascii, hu, hnamed⟩ := hall _ h
  obtain ⟨b, hb, hc⟩ := Option.map_eq_some_iff.mp hnamed
  have hslash : push? ⟨.string r, rev⟩ (UInt8.ofNat '\\'.toNat) = some ⟨.escape r, rev⟩ := rfl
  have hletter : push? ⟨.escape r, rev⟩ (UInt8.ofNat letter.toNat) =
      some ⟨.string (r.push [b]), rev⟩ := by
    simp [push?, hu, hb]
  rw [read?_cons _ (by decide), hslash, Option.bind_some, read?_cons _ hascii, hletter,
    Option.bind_some, read?_nil, hc]

/-- A digit in base sixteen is the same for characters and for bytes. -/
lemma hexValue?_of_hexDigit? {c : Char} {d : ℕ} (h : Text.hexDigit? c = some d) :
    c.toNat < 0x80 ∧ hexValue? (UInt8.ofNat c.toNat) = some d := by
  have hle : ∀ a b : Char, a ≤ b ↔ a.toNat ≤ b.toNat := fun a b => Iff.rfl
  simp only [Text.hexDigit?, Text.digit?, hle] at h
  split_ifs at h with hlower hupper hten
  · obtain rfl := Option.some.inj h
    have hc : 0x61 ≤ c.toNat ∧ c.toNat ≤ 0x66 := hlower
    have hb : (UInt8.ofNat c.toNat).toNat = c.toNat := Text.toNat_ofNat_of_lt (by omega)
    refine ⟨by omega, ?_⟩
    simp only [hexValue?, hb]
    rw [if_neg (by omega), if_neg (by omega), if_pos hc]
    rfl
  · obtain rfl := Option.some.inj h
    have hc : 0x41 ≤ c.toNat ∧ c.toNat ≤ 0x46 := hupper
    have hb : (UInt8.ofNat c.toNat).toNat = c.toNat := Text.toNat_ofNat_of_lt (by omega)
    refine ⟨by omega, ?_⟩
    simp only [hexValue?, hb]
    rw [if_neg (by omega), if_pos hc]
    rfl
  · obtain rfl := Option.some.inj h
    have hc : 0x30 ≤ c.toNat ∧ c.toNat ≤ 0x39 := hten
    have hb : (UInt8.ofNat c.toNat).toNat = c.toNat := Text.toNat_ofNat_of_lt (by omega)
    refine ⟨by omega, ?_⟩
    simp only [hexValue?, hb]
    rw [if_pos hc]
    rfl

lemma read?_digits {r : Reading} {digits : List Char} {left value n : ℕ}
    (hlen : digits.length = left + 1)
    (hvalue : digits.foldlM (fun acc c => (Text.hexDigit? c).bind fun d =>
      if d < 16 then some (acc * 16 + d) else none) value = some n) :
    (⟨.unit r left value, rev⟩ : Lexer).read? digits = some ⟨.string (r.pushUnit n), rev⟩ := by
  -- The value so far is that of the digits before, which the fold over characters has as well.
  induction digits generalizing left value with
  | nil => simp at hlen
  | cons c rest ih =>
    rw [List.foldlM_cons] at hvalue
    obtain ⟨value', hstep, hrest⟩ := Option.bind_eq_some_iff.mp hvalue
    obtain ⟨d, hd, hvalue'⟩ := Option.bind_eq_some_iff.mp hstep
    obtain rfl : value * 16 + d = value' := by
      split_ifs at hvalue'
      exact Option.some.inj hvalue'
    obtain ⟨hascii, hhex⟩ := hexValue?_of_hexDigit? hd
    rw [read?_cons _ hascii]
    cases left with
    | zero =>
      obtain rfl : rest = [] := List.length_eq_zero_iff.mp (by simpa using hlen)
      obtain rfl : value * 16 + d = n := Option.some.inj hrest
      simp [push?, hhex]
    | succ left =>
      have hpush : push? ⟨.unit r (left + 1) value, rev⟩ (UInt8.ofNat c.toNat) =
          some ⟨.unit r left (value * 16 + d), rev⟩ := by
        simp [push?, hhex]
      rw [hpush, Option.bind_some]
      exact ih (by simpa using hlen) hrest

lemma read?_unit {digits : List Char} {n : ℕ} (r : Reading) (h : IsUnit digits n) :
    (⟨.string r, rev⟩ : Lexer).read? ('\\' :: 'u' :: digits) =
      some ⟨.string (r.pushUnit n), rev⟩ := by
  obtain ⟨hlen, hvalue⟩ := h
  have hslash : push? ⟨.string r, rev⟩ (UInt8.ofNat '\\'.toNat) = some ⟨.escape r, rev⟩ := rfl
  have hu : push? ⟨.escape r, rev⟩ (UInt8.ofNat 'u'.toNat) = some ⟨.unit r 3 0, rev⟩ := rfl
  rw [read?_cons _ (by decide), hslash, Option.bind_some, read?_cons _ (by decide), hu,
    Option.bind_some]
  exact read?_digits hlen hvalue

/-- After a spelling of a character this character has been read. -/
lemma read?_spells {c : Char} {w : List Char} (cs : List Char) (h : Spells c w) :
    (⟨.string (.of cs), rev⟩ : Lexer).read? w = some ⟨.string (.of (cs ++ [c])), rev⟩ := by
  cases h with
  | plain hc hquote hslash => exact read?_plain cs hc hquote hslash
  | short hletter => rw [read?_short _ hletter, Reading.push_of]
  | unit hunit => rw [read?_unit _ hunit, Reading.pushUnit_of]
  | @pair first second high low hfirst hsecond hhigh hlow hc =>
    have hread := read?_append ⟨.string (.of cs), rev⟩ ('\\' :: 'u' :: first)
      ('\\' :: 'u' :: second)
    rw [read?_unit _ hfirst, Option.bind_some, read?_unit _ hsecond,
      Reading.pushUnit_pair cs hhigh hlow hc] at hread
    exact hread

lemma read?_spellsAll {cs w : List Char} (before : List Char) (h : SpellsAll cs w) :
    (⟨.string (.of before), rev⟩ : Lexer).read? w =
      some ⟨.string (.of (before ++ cs)), rev⟩ := by
  induction h generalizing before with
  | nil => rw [List.append_nil, read?_nil]
  | cons hc _ ih =>
    rw [read?_append, read?_spells before hc, Option.bind_some, ih, List.append_assoc]
    rfl

lemma read?_quoted {s : String} {w : List Char} (h : SpellsAll s.toList w) :
    (⟨.string .start, rev⟩ : Lexer).read? (w ++ ['"']) =
      some ⟨.between, .string (some s) :: rev⟩ := by
  have hend : push? ⟨.string (.of s.toList), rev⟩ (UInt8.ofNat '"'.toNat) =
      some ⟨.between, .string (some s) :: rev⟩ := by
    change some (emit rev (.string (Reading.of s.toList).text?)) = _
    rw [Reading.text?_of, String.ofList_toList]
    rfl
  rw [read?_append, ← Reading.of_nil, read?_spellsAll [] h, Option.bind_some, List.nil_append,
    read?_cons _ (by decide), hend]
  rfl

end Lexer

/-! ### Numbers -/

namespace NumberPart

/-- How far a number has come after some more characters, if it takes all of them. -/
def read? (p : NumberPart) (cs : List Char) : Option NumberPart :=
  cs.foldlM (fun p c => p.next (UInt8.ofNat c.toNat)) p

@[simp] lemma read?_nil (p : NumberPart) : p.read? [] = some p := rfl

lemma read?_cons (p : NumberPart) (c : Char) (cs : List Char) :
    p.read? (c :: cs) = (p.next (UInt8.ofNat c.toNat)).bind fun p => p.read? cs := by
  rw [read?, List.foldlM_cons]
  rfl

lemma read?_append (p : NumberPart) (cs cs' : List Char) :
    p.read? (cs ++ cs') = (p.read? cs).bind fun p => p.read? cs' := by
  rw [read?, List.foldlM_append]
  rfl

lemma isDigit_ofNat {c : Char} (h : c.isDigit = true) :
    c.toNat < 0x80 ∧ isDigit (UInt8.ofNat c.toNat) = true := by
  have hc : 0x30 ≤ c.toNat ∧ c.toNat ≤ 0x39 := by
    simpa [Char.isDigit, UInt32.le_iff_toNat_le] using h
  have hb : (UInt8.ofNat c.toNat).toNat = c.toNat := Text.toNat_ofNat_of_lt (by omega)
  refine ⟨by omega, ?_⟩
  simpa [isDigit, hb] using hc

/-- A part that any digit leads to, and in which any digit stays. -/
lemma read?_digits {p q : NumberPart} {digits : List Char}
    (hp : ∀ b, isDigit b = true → p.next b = some q)
    (hq : ∀ b, isDigit b = true → q.next b = some q) (h : IsDigits digits) :
    p.read? digits = some q := by
  have hstay : ∀ cs : List Char, (∀ c ∈ cs, c.isDigit = true) → q.read? cs = some q := by
    intro cs hcs
    induction cs with
    | nil => rfl
    | cons c rest ih =>
      rw [read?_cons, hq _ (isDigit_ofNat (hcs c (List.mem_cons_self ..))).2, Option.bind_some]
      exact ih fun c' hc' => hcs c' (List.mem_cons_of_mem _ hc')
  obtain ⟨hne, hdigits⟩ := h
  obtain ⟨c, rest, rfl⟩ := List.exists_cons_of_ne_nil hne
  rw [read?_cons, hp _ (isDigit_ofNat (hdigits c (List.mem_cons_self ..))).2, Option.bind_some]
  exact hstay rest fun c' hc' => hdigits c' (List.mem_cons_of_mem _ hc')

lemma ofNat_toNat_ofNat {c : Char} (h : c.toNat < 0x80) :
    Char.ofNat (UInt8.ofNat c.toNat).toNat = c := by
  rw [Text.toNat_ofNat_of_lt (by omega), Char.ofNat_toNat]

lemma read?_whole {l : List Char} (h : IsWhole l) :
    ∃ p, minus.read? l = some p ∧ (p = zero ∨ p = whole) := by
  obtain ⟨⟨hne, hdigits⟩, hzero⟩ := h
  obtain ⟨c, rest, rfl⟩ := List.exists_cons_of_ne_nil hne
  by_cases hc : c = '0'
  · subst hc
    obtain ⟨-, rfl⟩ := List.cons.inj (hzero rfl)
    exact ⟨zero, rfl, Or.inl rfl⟩
  · obtain ⟨hascii, hdigit⟩ := isDigit_ofNat (hdigits c (List.mem_cons_self ..))
    have hfirst : minus.next (UInt8.ofNat c.toNat) = some whole := by
      simp only [next, ofNat_toNat_ofNat hascii, beq_eq_false_iff_ne.mpr hc, hdigit]
      rfl
    refine ⟨whole, ?_, Or.inr rfl⟩
    rw [read?_cons, hfirst, Option.bind_some]
    cases rest with
    | nil => rfl
    | cons c' rest =>
      have hstay : ∀ b, isDigit b = true → whole.next b = some whole := by
        intro b hb
        simp [next, hb]
      exact read?_digits hstay hstay
        ⟨List.cons_ne_nil _ _, fun d hd => hdigits d (List.mem_cons_of_mem _ hd)⟩

lemma read?_fraction {l : List Char} {p : NumberPart} (h : IsFraction l)
    (hp : p = zero ∨ p = whole) :
    ∃ q, p.read? l = some q ∧ (q = zero ∨ q = whole ∨ q = fraction) := by
  rcases h with rfl | ⟨digits, rfl, hdigits⟩
  · exact ⟨p, rfl, hp.elim Or.inl fun hp => Or.inr (Or.inl hp)⟩
  · have hpoint : p.next (UInt8.ofNat '.'.toNat) = some point := by
      rcases hp with rfl | rfl <;> rfl
    refine ⟨fraction, ?_, Or.inr (Or.inr rfl)⟩
    rw [read?_cons, hpoint, Option.bind_some]
    exact read?_digits (fun b hb => by simp [next, hb]) (fun b hb => by simp [next, hb]) hdigits

lemma read?_exponent {l : List Char} {p : NumberPart} (h : IsExponent l)
    (hp : p = zero ∨ p = whole ∨ p = fraction) :
    ∃ q, p.read? l = some q ∧ q.isComplete = true := by
  rcases h with rfl | ⟨m, sign, digits, rfl, hm, hsign, hdigits⟩
  · refine ⟨p, rfl, ?_⟩
    rcases hp with rfl | rfl | rfl <;> rfl
  · have hmark : p.next (UInt8.ofNat m.toNat) = some mark := by
      rcases hp with rfl | rfl | rfl <;> rcases hm with rfl | rfl <;> rfl
    have hstay : ∀ b, isDigit b = true → exponent.next b = some exponent := by
      intro b hb
      simp [next, hb]
    refine ⟨exponent, ?_, rfl⟩
    rw [read?_cons, hmark, Option.bind_some]
    have hsigned : ∀ c, c = '+' ∨ c = '-' → mark.read? ([c] ++ digits) = some exponent := by
      intro c hc
      have hnext : mark.next (UInt8.ofNat c.toNat) = some NumberPart.sign := by
        rcases hc with rfl | rfl <;> rfl
      rw [List.singleton_append, read?_cons, hnext, Option.bind_some]
      exact read?_digits (fun b hb => by simp [next, hb]) hstay hdigits
    rcases hsign with rfl | rfl | rfl
    · exact read?_digits (fun b hb => by simp [next, hb]) hstay hdigits
    · exact hsigned '+' (Or.inl rfl)
    · exact hsigned '-' (Or.inr rfl)

/-- A number without its sign is complete. -/
lemma read?_unsigned {whole fraction exponent : List Char} (hwhole : IsWhole whole)
    (hfraction : IsFraction fraction) (hexponent : IsExponent exponent) :
    ∃ p, minus.read? (whole ++ (fraction ++ exponent)) = some p ∧ p.isComplete = true := by
  obtain ⟨p, hp, hpart⟩ := read?_whole hwhole
  obtain ⟨q, hq, hpart'⟩ := read?_fraction hfraction hpart
  obtain ⟨r, hr, hcomplete⟩ := read?_exponent hexponent hpart'
  refine ⟨r, ?_, hcomplete⟩
  rw [read?_append, hp, Option.bind_some, read?_append, hq, Option.bind_some, hr]

end NumberPart

/-- The characters of a number are ASCII characters. -/
lemma IsNumber.lt {l : List Char} (h : IsNumber l) : ∀ c ∈ l, c.toNat < 0x80 := by
  have hdigits : ∀ {digits : List Char}, (∀ c ∈ digits, c.isDigit = true) →
      ∀ c ∈ digits, c.toNat < 0x80 := fun h c hc => (NumberPart.isDigit_ofNat (h c hc)).1
  have hconcat : ∀ {a b : List Char}, (∀ c ∈ a, c.toNat < 0x80) → (∀ c ∈ b, c.toNat < 0x80) →
      ∀ c ∈ a ++ b, c.toNat < 0x80 :=
    fun ha hb c hc => (List.mem_append.mp hc).elim (ha c) (hb c)
  obtain ⟨hsign, hwhole, hfraction, hexponent⟩ := h
  refine hconcat ?_ (hconcat (hdigits hwhole.1.2) (hconcat ?_ ?_))
  · rcases hsign with rfl | rfl <;> simp
  · rcases hfraction with rfl | ⟨digits, rfl, hd⟩
    · simp
    · exact hconcat (a := ['.']) (by simp) (hdigits hd.2)
  · rcases hexponent with rfl | ⟨m, sign, digits, rfl, hm, hsign, hd⟩
    · simp
    · refine hconcat (a := [m]) ?_ (hconcat ?_ (hdigits hd.2))
      · rcases hm with rfl | rfl <;> simp
      · rcases hsign with rfl | rfl | rfl <;> simp

namespace Lexer

variable {rev : List Token}

lemma read?_number {p q : NumberPart} {cs : List Char} (acc : List UInt8)
    (hascii : ∀ c ∈ cs, c.toNat < 0x80) (h : p.read? cs = some q) :
    (⟨.number p acc, rev⟩ : Lexer).read? cs =
      some ⟨.number q ((cs.map fun c => UInt8.ofNat c.toNat).reverse ++ acc), rev⟩ := by
  induction cs generalizing p acc with
  | nil =>
    obtain rfl := Option.some.inj h
    rfl
  | cons c rest ih =>
    rw [NumberPart.read?_cons] at h
    obtain ⟨p', hp', hrest⟩ := Option.bind_eq_some_iff.mp h
    have hpush : push? ⟨.number p acc, rev⟩ (UInt8.ofNat c.toNat) =
        some ⟨.number p' (UInt8.ofNat c.toNat :: acc), rev⟩ := by
      simp [push?, hp']
    rw [read?_cons _ (hascii c (List.mem_cons_self ..)), hpush, Option.bind_some,
      ih _ (fun c' hc' => hascii c' (List.mem_cons_of_mem _ hc')) hrest]
    simp

/-- A digit begins a number as it follows a sign. -/
lemma begin?_digit {b : UInt8} {p : NumberPart} (hb : NumberPart.isDigit b = true)
    (hp : NumberPart.minus.next b = some p) : begin? rev b = some ⟨.number p [b], rev⟩ := by
  have hrange : 0x30 ≤ b.toNat ∧ b.toNat ≤ 0x39 := by simpa [NumberPart.isDigit] using hb
  have hne : ∀ k : UInt8, ¬ (0x30 ≤ k.toNat ∧ k.toNat ≤ 0x39) → (b == k) = false := by
    intro k hk
    exact beq_eq_false_iff_ne.mpr fun heq => hk (heq ▸ hrange)
  have hspace : isSpace b = false := by
    simp only [isSpace, hne 0x20 (by decide), hne 9 (by decide), hne 10 (by decide),
      hne 13 (by decide), Bool.or_self]
  simp only [begin?, hspace, hne 0x7b (by decide), hne 0x7d (by decide), hne 0x5b (by decide),
    hne 0x5d (by decide), hne 0x2c (by decide), hne 0x3a (by decide), hne 0x22 (by decide),
    hne 0x6e (by decide), hne 0x74 (by decide), hne 0x66 (by decide), hne 0x2d (by decide),
    Bool.false_eq_true, if_false, hb, if_true]
  by_cases hzero : b = 0x30
  · subst hzero
    obtain rfl : NumberPart.zero = p := Option.some.inj hp
    rfl
  · have hchar : (Char.ofNat b.toNat == '0') = false := by
      have hall : ∀ n < 0x80, Char.ofNat n = '0' → n = 0x30 := by decide
      refine beq_eq_false_iff_ne.mpr fun heq => hzero (UInt8.toNat_inj.mp ?_)
      exact hall b.toNat (by omega) heq
    simp only [NumberPart.next, hchar, hb, Bool.false_eq_true, if_false, if_true,
      Option.some.injEq] at hp
    simp [hzero, hp]

/-- After a number that follows nothing the reader is still in it. -/
lemma read?_isNumber {l : List Char} (rev : List Token) (h : IsNumber l) :
    ∃ p, p.isComplete = true ∧ (⟨.between, rev⟩ : Lexer).read? l =
      some ⟨.number p (l.map fun c => UInt8.ofNat c.toNat).reverse, rev⟩ := by
  have hascii := h.lt
  obtain @⟨sign, whole, fraction, exponent, hsign, hwhole, hfraction, hexponent⟩ := h
  obtain ⟨p, hp, hcomplete⟩ := NumberPart.read?_unsigned hwhole hfraction hexponent
  refine ⟨p, hcomplete, ?_⟩
  rcases hsign with rfl | rfl
  · -- Without a sign the first digit is not passed within the number, it begins the number.
    obtain ⟨⟨hne, hdigits⟩, -⟩ := hwhole
    obtain ⟨c, rest, rfl⟩ := List.exists_cons_of_ne_nil hne
    obtain ⟨hc, hdigit⟩ := NumberPart.isDigit_ofNat (hdigits c (List.mem_cons_self ..))
    rw [List.nil_append, List.cons_append] at hascii ⊢
    rw [List.cons_append, NumberPart.read?_cons] at hp
    obtain ⟨q, hq, hrest⟩ := Option.bind_eq_some_iff.mp hp
    have hbegin : push? ⟨.between, rev⟩ (UInt8.ofNat c.toNat) =
        some ⟨.number q [UInt8.ofNat c.toNat], rev⟩ := begin?_digit hdigit hq
    rw [read?_cons _ hc, hbegin, Option.bind_some,
      read?_number _ (fun c' hc' => hascii c' (List.mem_cons_of_mem _ hc')) hrest]
    simp
  · have hbegin : push? ⟨.between, rev⟩ (UInt8.ofNat '-'.toNat) =
        some ⟨.number .minus [UInt8.ofNat '-'.toNat], rev⟩ := rfl
    rw [List.singleton_append] at hascii ⊢
    rw [read?_cons _ (by decide), hbegin, Option.bind_some,
      read?_number _ (fun c' hc' => hascii c' (List.mem_cons_of_mem _ hc')) hp]
    simp

lemma numberToken_eq {l : List Char} (h : ∀ c ∈ l, c.toNat < 0x80) :
    numberToken (l.map fun c => UInt8.ofNat c.toNat).reverse = .number (String.ofList l) := by
  have hmap : (l.map fun c => UInt8.ofNat c.toNat).map (fun b => Char.ofNat b.toNat) = l := by
    rw [List.map_map]
    exact (List.map_congr_left fun c hc => NumberPart.ofNat_toNat_ofNat (h c hc)).trans
      (List.map_id l)
  rw [numberToken, List.reverse_reverse, hmap]

end Lexer

end Json
end LeaseKeeper
