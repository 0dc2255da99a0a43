/-
# What the reader has come through

Whatever the reader has come through without a refusal are the spellings of the tokens that it has
taken, and the beginning of one more.  So the tokens that it reads are written in the bytes.
-/
import LeaseKeeper.Proofs.Json.Strings

namespace LeaseKeeper
namespace Json

/-! ### Numbers -/

/-- The beginning of a number up to its fraction. -/
def IsFront (l : List Char) : Prop :=
  ∃ sign whole, l = sign ++ whole ∧ (sign = [] ∨ sign = ['-']) ∧ IsWhole whole

/-- The beginning of a number up to its exponent. -/
def IsMantissa (l : List Char) : Prop :=
  ∃ front fraction, l = front ++ fraction ∧ IsFront front ∧ IsFraction fraction

lemma IsFront.isMantissa {l fraction : List Char} (h : IsFront l)
    (hfraction : IsFraction fraction) : IsMantissa (l ++ fraction) :=
  ⟨l, fraction, rfl, h, hfraction⟩

lemma IsMantissa.isNumber {l exponent : List Char} (h : IsMantissa l)
    (hexponent : IsExponent exponent) : IsNumber (l ++ exponent) := by
  obtain ⟨_, fraction, rfl, ⟨sign, whole, rfl, hsign, hwhole⟩, hfraction⟩ := h
  rw [List.append_assoc, List.append_assoc]
  exact .intro hsign hwhole hfraction hexponent

lemma IsDigits.append {l : List Char} {c : Char} (h : IsDigits l) (hc : c.isDigit = true) :
    IsDigits (l ++ [c]) := by
  refine ⟨by simp, fun c' hc' => ?_⟩
  rcases List.mem_append.mp hc' with hc' | hc'
  · exact h.2 c' hc'
  · rwa [List.mem_singleton.mp hc']

lemma isDigits_singleton {c : Char} (hc : c.isDigit = true) : IsDigits [c] :=
  ⟨by simp, by simpa using hc⟩

namespace NumberPart

/-- How a number has begun that has come so far. -/
inductive Begun : NumberPart → List Char → Prop
  | minus : Begun .minus ['-']
  | zero {sign : List Char} (hsign : sign = [] ∨ sign = ['-']) : Begun .zero (sign ++ ['0'])
  | whole {sign digits : List Char} (hsign : sign = [] ∨ sign = ['-']) (h : IsDigits digits)
      (hzero : digits.head? ≠ some '0') : Begun .whole (sign ++ digits)
  | point {l : List Char} (h : IsFront l) : Begun .point (l ++ ['.'])
  | fraction {l digits : List Char} (h : IsFront l) (hdigits : IsDigits digits) :
      Begun .fraction (l ++ '.' :: digits)
  | mark {l : List Char} {m : Char} (h : IsMantissa l) (hm : m = 'e' ∨ m = 'E') :
      Begun .mark (l ++ [m])
  | sign {l : List Char} {m s : Char} (h : IsMantissa l) (hm : m = 'e' ∨ m = 'E')
      (hs : s = '+' ∨ s = '-') : Begun .sign (l ++ [m, s])
  | exponent {l sign digits : List Char} {m : Char} (h : IsMantissa l) (hm : m = 'e' ∨ m = 'E')
      (hsign : sign = [] ∨ sign = ['+'] ∨ sign = ['-']) (hdigits : IsDigits digits) :
      Begun .exponent (l ++ m :: (sign ++ digits))

variable {p q : NumberPart} {l : List Char} {b : UInt8}

lemma isFront_zero {sign : List Char} (hsign : sign = [] ∨ sign = ['-']) :
    IsFront (sign ++ ['0']) :=
  ⟨sign, ['0'], rfl, hsign, isDigits_singleton rfl, fun _ => rfl⟩

lemma isFront_whole {sign digits : List Char} (hsign : sign = [] ∨ sign = ['-'])
    (h : IsDigits digits) (hzero : digits.head? ≠ some '0') : IsFront (sign ++ digits) :=
  ⟨sign, digits, rfl, hsign, h, fun hhead => absurd hhead hzero⟩

lemma isMantissa_of_isFront (h : IsFront l) : IsMantissa l := by
  have hmantissa := h.isMantissa (Or.inl rfl : IsFraction [])
  rwa [List.append_nil] at hmantissa

lemma isFraction_digits {digits : List Char} (h : IsDigits digits) : IsFraction ('.' :: digits) :=
  Or.inr ⟨digits, rfl, h⟩

/-- A number that may end here is one. -/
lemma Begun.isNumber (h : Begun p l) (hp : p.isComplete = true) : IsNumber l := by
  have hend : ∀ {l}, IsMantissa l → IsNumber l := by
    intro l hl
    have hnumber := hl.isNumber (Or.inl rfl : IsExponent [])
    rwa [List.append_nil] at hnumber
  cases h with
  | zero hsign => exact hend (isMantissa_of_isFront (isFront_zero hsign))
  | whole hsign hdigits hzero =>
    exact hend (isMantissa_of_isFront (isFront_whole hsign hdigits hzero))
  | fraction hfront hdigits => exact hend (hfront.isMantissa (isFraction_digits hdigits))
  | exponent hmantissa hm hsign hdigits =>
    exact hmantissa.isNumber (Or.inr ⟨_, _, _, rfl, hm, hsign, hdigits⟩)
  | _ => cases hp

/-- The character of a byte. -/
lemma toNat_char (b : UInt8) : (Char.ofNat b.toNat).toNat = b.toNat :=
  Text.val_ofNat (Or.inl (Nat.lt_trans b.toNat_lt (by decide)))

lemma isDigit_char (h : isDigit b = true) : (Char.ofNat b.toNat).isDigit = true := by
  have hb : 0x30 ≤ b.toNat ∧ b.toNat ≤ 0x39 := by simpa [isDigit] using h
  have hc := toNat_char b
  simp only [Char.isDigit, ge_iff_le, UInt32.le_iff_toNat_le, Bool.and_eq_true, decide_eq_true_eq]
  change 48 ≤ (Char.ofNat b.toNat).toNat ∧ (Char.ofNat b.toNat).toNat ≤ 57
  omega

/-- A number goes on with ASCII characters only. -/
lemma lt_of_next (h : p.next b = some q) : b.toNat < 0x80 := by
  by_contra hle
  have hdigit : isDigit b = false := by
    simp [isDigit]
    omega
  have hne : ∀ c : Char, c.toNat < 0x80 → (Char.ofNat b.toNat == c) = false := by
    intro c hc
    refine beq_eq_false_iff_ne.mpr ?_
    rintro rfl
    rw [toNat_char] at hc
    exact hle hc
  cases p <;> simp [next, hdigit, hne] at h

lemma Begun.next (h : Begun p l) (hnext : p.next b = some q) :
    Begun q (l ++ [Char.ofNat b.toNat]) := by
  have hdigit : isDigit b = true → (Char.ofNat b.toNat).isDigit = true := isDigit_char
  unfold NumberPart.next at hnext
  dsimp only at hnext
  generalize Char.ofNat b.toNat = c at hnext hdigit ⊢
  -- A point or the mark of an exponent may follow the whole part.
  have hafter : ∀ {l}, IsFront l → (if c == '.' then some NumberPart.point
      else if c == 'e' || c == 'E' then some NumberPart.mark else none) = some q →
      Begun q (l ++ [c]) := by
    intro l hl hq
    split_ifs at hq with hpoint hmark
    · obtain rfl := Option.some.inj hq
      rw [eq_of_beq hpoint]
      exact .point hl
    · obtain rfl := Option.some.inj hq
      exact .mark (isMantissa_of_isFront hl) (by simpa using hmark)
  cases h with
  | minus =>
    dsimp only at hnext
    split_ifs at hnext with hzero hd
    · obtain rfl := Option.some.inj hnext
      rw [eq_of_beq hzero]
      exact .zero (Or.inr rfl)
    · obtain rfl := Option.some.inj hnext
      exact .whole (Or.inr rfl) (isDigits_singleton (hdigit hd)) (by simpa using hzero)
  | zero hsign => exact hafter (isFront_zero hsign) hnext
  | whole hsign hdigits hzero =>
    dsimp only at hnext
    by_cases hd : isDigit b = true
    · rw [if_pos hd] at hnext
      obtain rfl := Option.some.inj hnext
      rw [List.append_assoc]
      refine .whole hsign (hdigits.append (hdigit hd)) ?_
      rwa [List.head?_append_of_ne_nil _ hdigits.1]
    · rw [if_neg hd] at hnext
      exact hafter (isFront_whole hsign hdigits hzero) hnext
  | point hfront =>
    dsimp only at hnext
    split_ifs at hnext with hd
    obtain rfl := Option.some.inj hnext
    rw [List.append_assoc]
    exact .fraction hfront (isDigits_singleton (hdigit hd))
  | fraction hfront hdigits =>
    dsimp only at hnext
    split_ifs at hnext with hd hmark
    · obtain rfl := Option.some.inj hnext
      rw [List.append_assoc]
      exact .fraction hfront (hdigits.append (hdigit hd))
    · obtain rfl := Option.some.inj hnext
      exact .mark (hfront.isMantissa (isFraction_digits hdigits)) (by simpa using hmark)
  | mark hmantissa hm =>
    dsimp only at hnext
    split_ifs at hnext with hd hsign
    · obtain rfl := Option.some.inj hnext
      rw [List.append_assoc]
      exact .exponent hmantissa hm (Or.inl rfl) (isDigits_singleton (hdigit hd))
    · obtain rfl := Option.some.inj hnext
      rw [List.append_assoc]
      exact .sign hmantissa hm (by simpa using hsign)
  | @sign _ m s hmantissa hm hs =>
    dsimp only at hnext
    split_ifs at hnext with hd
    obtain rfl := Option.some.inj hnext
    have hsign : [s] = [] ∨ [s] = ['+'] ∨ [s] = ['-'] := Or.inr (by simpa using hs)
    rw [List.append_assoc]
    exact .exponent hmantissa hm hsign (isDigits_singleton (hdigit hd))
  | exponent hmantissa hm hsign hdigits =>
    dsimp only at hnext
    split_ifs at hnext with hd
    obtain rfl := Option.some.inj hnext
    rw [List.append_assoc, List.cons_append, List.append_assoc]
    exact .exponent hmantissa hm hsign (hdigits.append (hdigit hd))

end NumberPart

/-! ### Tokens -/

namespace Lexer

variable {rev : List Token} {bs w : List UInt8} {l l' : Lexer} {b : UInt8} {t : Token}

/-- What the reader has come through. -/
inductive Passed : List UInt8 → Lexer → Prop
  | between {rev : List Token} {bs : List UInt8} (h : RawWritten rev.reverse bs) :
      Passed bs ⟨.between, rev⟩
  | word {rev : List Token} {bs w rest : List UInt8} {t : Token} (h : RawWritten rev.reverse bs)
      (hword : RawLexeme t (w ++ rest)) : Passed (bs ++ w) ⟨.word rest t, rev⟩
  | number {rev : List Token} {bs : List UInt8} {part : NumberPart} {digits : List Char}
      (h : RawWritten rev.reverse bs) (hbegun : part.Begun digits)
      (hascii : ∀ c ∈ digits, c.toNat < 0x80) :
      Passed (bs ++ utf8 digits)
        ⟨.number part (digits.map fun c => UInt8.ofNat c.toNat).reverse, rev⟩
  | string {rev : List Token} {bs w : List UInt8} {r : Reading} (h : RawWritten rev.reverse bs)
      (hr : Reads w r) : Passed (bs ++ 0x22 :: w) ⟨.string r, rev⟩
  | escape {rev : List Token} {bs w : List UInt8} {r : Reading} (h : RawWritten rev.reverse bs)
      (hr : Reads w r) : Passed (bs ++ 0x22 :: (w ++ [0x5c])) ⟨.escape r, rev⟩
  /-- Some digits of a unit have been read, and their value. -/
  | unit {rev : List Token} {bs w : List UInt8} {r : Reading} {digits : List Char}
      {left value : ℕ} (h : RawWritten rev.reverse bs) (hr : Reads w r)
      (hlength : digits.length + left = 3) (hvalue : Text.hexDigits? digits = some value) :
      Passed (bs ++ 0x22 :: (w ++ unitOf digits)) ⟨.unit r left value, rev⟩

/-- One more token has been read. -/
lemma written_cons (h : RawWritten rev.reverse bs) (ht : RawLexeme t w) :
    RawWritten (t :: rev).reverse (bs ++ w) := by
  rw [List.reverse_cons]
  exact h.append ht.written

lemma passed_emit (h : RawWritten rev.reverse bs) (ht : RawLexeme t w) :
    Passed (bs ++ w) (emit rev t) := .between (written_cons h ht)

lemma passed_space (h : RawWritten rev.reverse bs) (hb : isSpace b = true) :
    Passed (bs ++ [b]) ⟨.between, rev⟩ := by
  have hspace : ∃ c, (c = ' ' ∨ c = '\n' ∨ c = '\r' ∨ c = '\t') ∧ [b] = utf8 [c] := by
    simp only [isSpace, Bool.or_eq_true, beq_iff_eq] at hb
    rcases hb with ((rfl | rfl) | rfl) | rfl
    · exact ⟨' ', by decide, by decide⟩
    · exact ⟨'\t', by decide, by decide⟩
    · exact ⟨'\n', by decide, by decide⟩
    · exact ⟨'\r', by decide, by decide⟩
  obtain ⟨c, hc, hbytes⟩ := hspace
  have hblank : IsBlank [c] := fun c' hc' => by rwa [List.mem_singleton.mp hc']
  have happend := h.append (.done hblank)
  rw [List.append_nil, ← hbytes] at happend
  exact .between happend

/-- A byte that is a token of its own. -/
lemma passed_one {c : Char} {k : UInt8} (h : RawWritten rev.reverse bs) (ht : Lexeme t [c])
    (hc : utf8 [c] = [k]) (hb : (b == k) = true) (hl : some (emit rev t) = some l) :
    Passed (bs ++ [b]) l := by
  obtain rfl := Option.some.inj hl
  rw [eq_of_beq hb, ← hc]
  exact passed_emit h (.text ht)

/-- A byte that begins a word. -/
lemma passed_word {word : List Char} {k : UInt8} {rest : List UInt8}
    (h : RawWritten rev.reverse bs) (ht : Lexeme t word) (hword : utf8 word = k :: rest)
    (hb : (b == k) = true) (hl : some (⟨.word rest t, rev⟩ : Lexer) = some l) :
    Passed (bs ++ [b]) l := by
  obtain rfl := Option.some.inj hl
  rw [eq_of_beq hb]
  refine .word h ?_
  rw [List.singleton_append, ← hword]
  exact .text ht

/-- The byte of an ASCII character. -/
lemma utf8EncodeChar_char (hb : b.toNat < 0x80) :
    String.utf8EncodeChar (Char.ofNat b.toNat) = [b] := by
  have hchar := NumberPart.toNat_char b
  rw [utf8EncodeChar_of_lt (by omega), hchar, UInt8.ofNat_toNat]

/-- A number with one more character. -/
lemma passed_number {part : NumberPart} (digits : List Char) (h : RawWritten rev.reverse bs)
    (hbegun : part.Begun (digits ++ [Char.ofNat b.toNat])) (hascii : ∀ c ∈ digits, c.toNat < 0x80)
    (hb : b.toNat < 0x80) : Passed (bs ++ utf8 digits ++ [b])
      ⟨.number part (b :: (digits.map fun c => UInt8.ofNat c.toNat).reverse), rev⟩ := by
  have hchar := NumberPart.toNat_char b
  have hascii' : ∀ c ∈ digits ++ [Char.ofNat b.toNat], c.toNat < 0x80 := by
    intro c hc
    rcases List.mem_append.mp hc with hc | hc
    · exact hascii c hc
    · rw [List.mem_singleton.mp hc, hchar]
      exact hb
  have hnumber := Passed.number h hbegun hascii'
  rw [utf8_append, utf8_cons, utf8EncodeChar_char hb, List.map_append,
    List.reverse_append] at hnumber
  simpa [hchar] using hnumber

/-- A byte that begins a number. -/
lemma passed_first {part : NumberPart} (h : RawWritten rev.reverse bs)
    (hbegun : part.Begun [Char.ofNat b.toNat]) (hb : b.toNat < 0x80) :
    Passed (bs ++ [b]) ⟨.number part [b], rev⟩ := by
  have hnumber := passed_number [] h hbegun nofun hb
  simpa using hnumber

/-- A byte that begins a token, or white space. -/
lemma passed_begin (h : RawWritten rev.reverse bs) (hbegin : begin? rev b = some l) :
    Passed (bs ++ [b]) l := by
  unfold begin? at hbegin
  rcases ite_eq_iff.mp hbegin with ⟨hb, hl⟩ | ⟨-, hbegin⟩
  · obtain rfl := Option.some.inj hl
    exact passed_space h hb
  rcases ite_eq_iff.mp hbegin with ⟨hb, hl⟩ | ⟨-, hbegin⟩
  · exact passed_one h .openObject rfl hb hl
  rcases ite_eq_iff.mp hbegin with ⟨hb, hl⟩ | ⟨-, hbegin⟩
  · exact passed_one h .closeObject rfl hb hl
  rcases ite_eq_iff.mp hbegin with ⟨hb, hl⟩ | ⟨-, hbegin⟩
  · exact passed_one h .openArray rfl hb hl
  rcases ite_eq_iff.mp hbegin with ⟨hb, hl⟩ | ⟨-, hbegin⟩
  · exact passed_one h .closeArray rfl hb hl
  rcases ite_eq_iff.mp hbegin with ⟨hb, hl⟩ | ⟨-, hbegin⟩
  · exact passed_one h .comma rfl hb hl
  rcases ite_eq_iff.mp hbegin with ⟨hb, hl⟩ | ⟨-, hbegin⟩
  · exact passed_one h .colon rfl hb hl
  rcases ite_eq_iff.mp hbegin with ⟨hb, hl⟩ | ⟨-, hbegin⟩
  · obtain rfl := Option.some.inj hl
    rw [eq_of_beq hb]
    exact .string h .start
  rcases ite_eq_iff.mp hbegin with ⟨hb, hl⟩ | ⟨-, hbegin⟩
  · exact passed_word h .null rfl hb hl
  rcases ite_eq_iff.mp hbegin with ⟨hb, hl⟩ | ⟨-, hbegin⟩
  · exact passed_word h .true rfl hb hl
  rcases ite_eq_iff.mp hbegin with ⟨hb, hl⟩ | ⟨-, hbegin⟩
  · exact passed_word h .false rfl hb hl
  rcases ite_eq_iff.mp hbegin with ⟨hb, hl⟩ | ⟨-, hbegin⟩
  · obtain rfl := Option.some.inj hl
    obtain rfl := eq_of_beq hb
    exact passed_first h .minus (by decide)
  rcases ite_eq_iff.mp hbegin with ⟨hb, hl⟩ | ⟨hzero, hbegin⟩
  · obtain rfl := Option.some.inj hl
    obtain rfl := eq_of_beq hb
    exact passed_first h (.zero (Or.inl rfl)) (by decide)
  rcases ite_eq_iff.mp hbegin with ⟨hb, hl⟩ | ⟨-, hbegin⟩
  · obtain rfl := Option.some.inj hl
    have hrange : 0x30 ≤ b.toNat ∧ b.toNat ≤ 0x39 := by simpa [NumberPart.isDigit] using hb
    refine passed_first h ?_ (by omega)
    refine .whole (Or.inl rfl) (isDigits_singleton (NumberPart.isDigit_char hb)) ?_
    intro hhead
    have hvalue := NumberPart.toNat_char b
    rw [Option.some.inj hhead] at hvalue
    obtain rfl : b = 0x30 := UInt8.toNat_inj.mp hvalue.symm
    exact hzero rfl
  · cases hbegin

/-- The letter of a short escape. -/
lemma exists_short_of_named? {k : UInt8} (h : named? b = some k) :
    ∃ letter c, (letter, c) ∈ shortEscapes ∧ utf8 ['\\', letter] = [0x5c, b] ∧
      String.utf8EncodeChar c = [k] := by
  have hall : ∀ n < 256, (named? (UInt8.ofNat n)).all (fun k => shortEscapes.any fun p =>
      utf8 ['\\', p.1] = [0x5c, UInt8.ofNat n] ∧ String.utf8EncodeChar p.2 = [k]) = true := by
    decide +kernel
  have hb := hall b.toNat b.toNat_lt
  rw [UInt8.ofNat_toNat, h, Option.all_some, List.any_eq_true] at hb
  obtain ⟨⟨letter, c⟩, hmem, hbytes⟩ := hb
  obtain ⟨hletter, hc⟩ := of_decide_eq_true hbytes
  exact ⟨letter, c, hmem, hletter, hc⟩

/-- A digit of a unit. -/
lemma hexDigit?_of_hexValue? {d : ℕ} (h : hexValue? b = some d) :
    b.toNat < 0x80 ∧ d < 16 ∧ Text.hexDigit? (Char.ofNat b.toNat) = some d := by
  have hall : ∀ n < 256, (hexValue? (UInt8.ofNat n)).all (fun d =>
      n < 0x80 ∧ d < 16 ∧ Text.hexDigit? (Char.ofNat n) = some d) = true := by
    decide +kernel
  have hb := hall b.toNat b.toNat_lt
  rw [UInt8.ofNat_toNat, h, Option.all_some] at hb
  exact of_decide_eq_true hb

/-! One more byte, by what the reader is in the middle of. -/

lemma passed_push_word {rest : List UInt8} (h : RawWritten rev.reverse bs)
    (hword : RawLexeme t (w ++ rest)) (hpush : push? ⟨.word rest t, rev⟩ b = some l) :
    Passed (bs ++ w ++ [b]) l := by
  cases rest with
  | nil =>
    rw [List.append_nil] at hword
    exact passed_begin (written_cons h hword) hpush
  | cons k rest =>
    simp only [push?] at hpush
    split_ifs at hpush with hk
    subst hk
    rw [List.append_assoc]
    cases rest with
    | nil =>
      obtain rfl := Option.some.inj hpush
      exact passed_emit h hword
    | cons k' rest =>
      obtain rfl := Option.some.inj hpush
      refine .word h ?_
      rwa [List.append_assoc]

lemma passed_push_number {part : NumberPart} {digits : List Char} (h : RawWritten rev.reverse bs)
    (hbegun : part.Begun digits) (hascii : ∀ c ∈ digits, c.toNat < 0x80)
    (hpush : push? ⟨.number part (digits.map fun c => UInt8.ofNat c.toNat).reverse, rev⟩ b =
      some l) : Passed (bs ++ utf8 digits ++ [b]) l := by
  simp only [push?] at hpush
  cases hnext : part.next b with
  | some part' =>
    rw [hnext] at hpush
    obtain rfl := Option.some.inj hpush
    exact passed_number digits h (hbegun.next hnext) hascii (NumberPart.lt_of_next hnext)
  | none =>
    rw [hnext] at hpush
    dsimp only at hpush
    split_ifs at hpush with hcomplete
    rw [numberToken_eq hascii] at hpush
    exact passed_begin (written_cons h (.text (.number (hbegun.isNumber hcomplete)))) hpush

lemma passed_push_string {r : Reading} (h : RawWritten rev.reverse bs) (hr : Reads w r)
    (hpush : push? ⟨.string r, rev⟩ b = some l) : Passed (bs ++ 0x22 :: w ++ [b]) l := by
  simp only [push?] at hpush
  rw [List.append_assoc, List.cons_append]
  rcases ite_eq_iff.mp hpush with ⟨hb, hl⟩ | ⟨hquote, hpush⟩
  · obtain rfl := Option.some.inj hl
    rw [eq_of_beq hb]
    exact passed_emit h hr.lexeme
  rcases ite_eq_iff.mp hpush with ⟨hb, hl⟩ | ⟨hslash, hpush⟩
  · obtain rfl := Option.some.inj hl
    rw [eq_of_beq hb]
    exact .escape h hr
  split_ifs at hpush with hcontrol
  obtain rfl := Option.some.inj hpush
  exact .string h (hr.byte (Nat.le_of_not_lt hcontrol) (by simpa using hquote)
    (by simpa using hslash))

lemma passed_push_escape {r : Reading} (h : RawWritten rev.reverse bs) (hr : Reads w r)
    (hpush : push? ⟨.escape r, rev⟩ b = some l) :
    Passed (bs ++ 0x22 :: (w ++ [0x5c]) ++ [b]) l := by
  simp only [push?] at hpush
  rw [List.append_assoc, List.cons_append, List.append_assoc]
  rcases ite_eq_iff.mp hpush with ⟨hu, hl⟩ | ⟨-, hpush⟩
  · obtain rfl := Option.some.inj hl
    rw [eq_of_beq hu]
    exact .unit h hr (show ([] : List Char).length + 3 = 3 from rfl) rfl
  · obtain ⟨k, hk, rfl⟩ := Option.map_eq_some_iff.mp hpush
    obtain ⟨letter, c, hmem, hletter, hc⟩ := exists_short_of_named? hk
    rw [← hc, List.singleton_append, ← hletter]
    exact .string h (hr.short hmem)

lemma passed_push_unit {r : Reading} {digits : List Char} {left value : ℕ}
    (h : RawWritten rev.reverse bs) (hr : Reads w r) (hlength : digits.length + left = 3)
    (hvalue : Text.hexDigits? digits = some value)
    (hpush : push? ⟨.unit r left value, rev⟩ b = some l) :
    Passed (bs ++ 0x22 :: (w ++ unitOf digits) ++ [b]) l := by
  simp only [push?] at hpush
  obtain ⟨d, hd, hl⟩ := Option.map_eq_some_iff.mp hpush
  obtain ⟨hascii, hlt, hhex⟩ := hexDigit?_of_hexValue? hd
  have hvalue' : Text.hexDigits? (digits ++ [Char.ofNat b.toNat]) = some (value * 16 + d) := by
    unfold Text.hexDigits? Text.digitsIn? at hvalue ⊢
    rw [List.foldlM_append, hvalue]
    simp [hhex, hlt]
  have hbytes : w ++ unitOf digits ++ [b] = w ++ unitOf (digits ++ [Char.ofNat b.toNat]) := by
    have hlast : utf8 [Char.ofNat b.toNat] = [b] := by
      rw [utf8_cons, utf8EncodeChar_char hascii, utf8_nil, List.append_nil]
    rw [unitOf, unitOf, ← List.cons_append, ← List.cons_append, utf8_append, hlast,
      List.append_assoc]
  rw [List.append_assoc, List.cons_append, hbytes]
  split_ifs at hl with hleft
  · subst hl
    exact .string h (hr.unit ⟨by simpa [hleft] using hlength, hvalue'⟩)
  · subst hl
    exact .unit h hr (by simp; omega) hvalue'

/-- What the reader has come through with one more byte. -/
lemma Passed.push (h : Passed bs l) (hpush : l.push? b = some l') : Passed (bs ++ [b]) l' := by
  cases h with
  | between h => exact passed_begin h hpush
  | word h hword => exact passed_push_word h hword hpush
  | number h hbegun hascii => exact passed_push_number h hbegun hascii hpush
  | string h hr => exact passed_push_string h hr hpush
  | escape h hr => exact passed_push_escape h hr hpush
  | unit h hr hlength hvalue => exact passed_push_unit h hr hlength hvalue hpush

/-- What the reader has come through to the end. -/
lemma Passed.finish {ts : List Token} (h : Passed bs l) (hfinish : l.finish? = some ts) :
    RawWritten ts bs := by
  cases h with
  | between h =>
    obtain rfl := Option.some.inj hfinish
    exact h
  | number h hbegun hascii =>
    simp only [finish?] at hfinish
    split_ifs at hfinish with hcomplete
    rw [numberToken_eq hascii] at hfinish
    obtain rfl := Option.some.inj hfinish
    exact written_cons h (.text (.number (hbegun.isNumber hcomplete)))
  | _ => cases hfinish

end Lexer

/-- The tokens that are read are written in the bytes. -/
theorem written_of_tokens? {bs : List UInt8} {ts : List Token} (h : tokens? bs = some ts) :
    RawWritten ts bs := by
  obtain ⟨l, hread, hfinish⟩ := Option.bind_eq_some_iff.mp h
  have hpassed : ∀ (bs bs' : List UInt8) (l l' : Lexer), Lexer.Passed bs l →
      bs'.foldlM Lexer.push? l = some l' → Lexer.Passed (bs ++ bs') l' := by
    intro bs bs'
    induction bs' generalizing bs with
    | nil =>
      intro l l' hl hread
      obtain rfl := Option.some.inj hread
      rwa [List.append_nil]
    | cons b rest ih =>
      intro l l' hl hread
      rw [List.foldlM_cons] at hread
      obtain ⟨l₁, hpush, hrest⟩ := Option.bind_eq_some_iff.mp hread
      rw [List.append_cons]
      exact ih _ _ _ (hl.push hpush) hrest
  have hstart : Lexer.Passed [] .start := .between (show RawWritten [].reverse [] from .nil)
  exact (hpassed [] bs _ _ hstart hread).finish hfinish

end Json
end LeaseKeeper
