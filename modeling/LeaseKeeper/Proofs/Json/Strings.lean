/-
# What a string denotes

The pieces of a string denote bytes: a byte stands for itself, and a character that is spelled for
its own bytes.  The reader keeps these bytes until a unit is left without its other half.  So it
reads a string as a text exactly when the string is a spelling of this text.
-/
import LeaseKeeper.Proofs.Json.Lexing
import LeaseKeeper.Proofs.Json.Raw
import LeaseKeeper.Proofs.Text.Decoding
import Mathlib.Algebra.Group.Nat.Defs

namespace LeaseKeeper
namespace Json

open Text (IsFurther)

/-! ### The bytes of a string -/

/-- The bytes that a string denotes. -/
inductive Denotes : List UInt8 → List UInt8 → Prop
  | nil : Denotes [] []
  | byte {b : UInt8} {w bs : List UInt8} (hb : 0x20 ≤ b.toNat) (hquote : b ≠ 0x22)
      (hslash : b ≠ 0x5c) (h : Denotes w bs) : Denotes (b :: w) (b :: bs)
  | spelling {c : Char} {l : List Char} {w bs : List UInt8} (hc : Spells c l) (h : Denotes w bs) :
      Denotes (utf8 l ++ w) (String.utf8EncodeChar c ++ bs)

variable {w w' bs bs' : List UInt8}

lemma Denotes.append (h : Denotes w bs) (h' : Denotes w' bs') :
    Denotes (w ++ w') (bs ++ bs') := by
  induction h with
  | nil => exact h'
  | byte hb hquote hslash _ ih => exact .byte hb hquote hslash ih
  | spelling hc _ ih =>
    rw [List.append_assoc, List.append_assoc]
    exact .spelling hc ih

lemma denotes_byte {b : UInt8} (hb : 0x20 ≤ b.toNat) (hquote : b ≠ 0x22) (hslash : b ≠ 0x5c) :
    Denotes [b] [b] := .byte hb hquote hslash .nil

lemma Spells.denotes {c : Char} {l : List Char} (h : Spells c l) :
    Denotes (utf8 l) (String.utf8EncodeChar c) := by
  have hone : Denotes (utf8 l ++ []) (String.utf8EncodeChar c ++ []) := .spelling h .nil
  rwa [List.append_nil, List.append_nil] at hone

/-- Bytes that begin no character stand for themselves. -/
lemma Denotes.of_further {rest : List UInt8} (hrest : ∀ b ∈ rest, IsFurther b)
    (h : Denotes w (rest ++ bs)) : ∃ w', w = rest ++ w' ∧ Denotes w' bs := by
  induction rest generalizing w with
  | nil => exact ⟨w, rfl, h⟩
  | cons b rest ih =>
    generalize hbs : b :: rest ++ bs = bs' at h
    cases h with
    | nil => cases hbs
    | byte _ _ _ hw =>
      obtain ⟨rfl, rfl⟩ := List.cons.inj hbs
      obtain ⟨w', rfl, hw'⟩ := ih (fun b' hb' => hrest b' (List.mem_cons_of_mem _ hb')) hw
      exact ⟨w', rfl, hw'⟩
    | @spelling c =>
      obtain ⟨first, others, hc, hfirst, -⟩ := Text.exists_utf8EncodeChar c
      rw [hc] at hbs
      obtain ⟨rfl, -⟩ := List.cons.inj hbs
      exact absurd (hrest b (List.mem_cons_self ..)) hfirst

/-- A character whose first byte stands for itself may stand for itself. -/
lemma spells_plain {c : Char} {first : UInt8} {rest : List UInt8}
    (hc : String.utf8EncodeChar c = first :: rest) (hb : 0x20 ≤ first.toNat)
    (hquote : first ≠ 0x22) (hslash : first ≠ 0x5c) : Spells c [c] := by
  by_cases hascii : c.toNat < 0x80
  · rw [utf8EncodeChar_of_lt hascii] at hc
    obtain ⟨rfl, -⟩ := List.cons.inj hc
    rw [Text.toNat_ofNat_of_lt (by omega)] at hb
    refine .plain hb ?_ ?_
    · rintro rfl
      exact hquote rfl
    · rintro rfl
      exact hslash rfl
  · refine .plain (by omega) ?_ ?_
    · rintro rfl
      exact hascii (by decide)
    · rintro rfl
      exact hascii (by decide)

/-- A string that denotes the bytes of a text is a spelling of this text. -/
lemma Denotes.exists_spellsAll {cs : List Char} (h : Denotes w (utf8 cs)) :
    ∃ l, SpellsAll cs l ∧ w = utf8 l := by
  -- The first character of the text is spelled at the beginning, or all its bytes stand there.
  induction cs generalizing w with
  | nil =>
    generalize hbs : utf8 [] = bs at h
    cases h with
    | nil => exact ⟨[], .nil, rfl⟩
    | byte => cases hbs
    | spelling => exact absurd (List.append_eq_nil_iff.mp hbs.symm).1 String.utf8EncodeChar_ne_nil
  | cons c cs ih =>
    generalize hbs : utf8 (c :: cs) = bs at h
    rw [utf8_cons] at hbs
    cases h with
    | nil => exact absurd (List.append_eq_nil_iff.mp hbs).1 String.utf8EncodeChar_ne_nil
    | byte hb hquote hslash hw =>
      obtain ⟨first, rest, hc, -, hrest⟩ := Text.exists_utf8EncodeChar c
      rw [hc] at hbs
      obtain ⟨rfl, rfl⟩ := List.cons.inj hbs
      obtain ⟨w', rfl, hw'⟩ := hw.of_further hrest
      obtain ⟨l, hl, rfl⟩ := ih hw'
      refine ⟨[c] ++ l, .cons (spells_plain hc hb hquote hslash) hl, ?_⟩
      rw [utf8_append, utf8_cons, hc]
      simp
    | spelling hc hw =>
      obtain ⟨rfl, rfl⟩ := Text.utf8EncodeChar_append_inj hbs
      obtain ⟨l, hl, rfl⟩ := ih hw
      exact ⟨_, .cons hc hl, (utf8_append _ _).symm⟩

/-! ### The reader within a string -/

/-- Each digit in base sixteen makes a number at most sixteen times larger. -/
lemma foldlM_hexDigit?_lt {cs : List Char} {acc n : ℕ}
    (h : cs.foldlM (fun acc c => (Text.hexDigit? c).bind fun d =>
      if d < 16 then some (acc * 16 + d) else none) acc = some n) :
    n < (acc + 1) * 16 ^ cs.length := by
  induction cs generalizing acc with
  | nil =>
    obtain rfl := Option.some.inj h
    simp
  | cons c rest ih =>
    rw [List.foldlM_cons] at h
    obtain ⟨acc', hstep, hrest⟩ := Option.bind_eq_some_iff.mp h
    obtain ⟨d, -, hacc'⟩ := Option.bind_eq_some_iff.mp hstep
    have hle : acc' + 1 ≤ (acc + 1) * 16 := by
      split_ifs at hacc'
      obtain rfl := Option.some.inj hacc'
      omega
    calc n < (acc' + 1) * 16 ^ rest.length := ih hrest
      _ ≤ (acc + 1) * 16 * 16 ^ rest.length := Nat.mul_le_mul_right _ hle
      _ = (acc + 1) * 16 ^ (c :: rest).length := by
        rw [List.length_cons, pow_succ', Nat.mul_assoc]

lemma IsUnit.lt {digits : List Char} {n : ℕ} (h : IsUnit digits n) : n < 0x10000 := by
  obtain ⟨hlength, hvalue⟩ := h
  have hlt := foldlM_hexDigit?_lt hvalue
  rw [hlength] at hlt
  exact hlt

/-- A unit as it is written. -/
abbrev unitOf (digits : List Char) : List UInt8 := utf8 ('\\' :: 'u' :: digits)

/-- What the reader makes of the beginning of a string. -/
inductive Denoted : List UInt8 → Reading → Prop
  | bytes {w bs : List UInt8} (h : Denotes w bs) : Denoted w ⟨some bs.reverse, none⟩
  /-- The last unit waits for its other half. -/
  | waiting {w bs : List UInt8} {digits : List Char} {high : ℕ} (h : Denotes w bs)
      (hunit : IsUnit digits high) (hhigh : Reading.isHigh high = true) :
      Denoted (w ++ unitOf digits) ⟨some bs.reverse, some high⟩
  /-- Some unit has been left alone. -/
  | broken (w : List UInt8) (high : Option ℕ) : Denoted w ⟨none, high⟩

/-- The reader has read the beginning of a string. -/
structure Reads (w : List UInt8) (r : Reading) : Prop where
  pieces : Pieces w
  run : ∀ rev, w.foldlM Lexer.push? ⟨.string .start, rev⟩ = some ⟨.string r, rev⟩
  denoted : Denoted w r

namespace Reads

variable {r : Reading}

lemma start : Reads [] .start := ⟨.nil, fun _ => rfl, .bytes .nil⟩

lemma run_append {r' : Reading} (h : Reads w r)
    (hrun : ∀ rev, w'.foldlM Lexer.push? ⟨.string r, rev⟩ = some ⟨.string r', rev⟩)
    (rev : List Token) :
    (w ++ w').foldlM Lexer.push? ⟨.string .start, rev⟩ = some ⟨.string r', rev⟩ := by
  rw [List.foldlM_append, h.run]
  exact hrun rev

lemma push_bytes (bs bs' : List UInt8) :
    Reading.push ⟨some bs.reverse, none⟩ bs' = ⟨some (bs ++ bs').reverse, none⟩ := by
  simp only [Reading.push, Option.map_some, List.reverse_append]

lemma denoted_push (h : Denoted w r) (hdenotes : Denotes w' bs') :
    Denoted (w ++ w') (r.push bs') := by
  cases h with
  | bytes hw =>
    rw [push_bytes]
    exact .bytes (hw.append hdenotes)
  | waiting => exact .broken _ _
  | broken _ high => cases high <;> exact .broken _ _

lemma exists_pushUnit_none (high : Option ℕ) (n : ℕ) :
    ∃ high', Reading.pushUnit ⟨none, high⟩ n = ⟨none, high'⟩ := by
  unfold Reading.pushUnit
  cases high with
  | none =>
    dsimp only
    split_ifs
    · exact ⟨_, rfl⟩
    · exact ⟨_, rfl⟩
    · exact ⟨_, rfl⟩
  | some high =>
    dsimp only
    split_ifs
    · exact ⟨_, rfl⟩
    · exact ⟨_, rfl⟩

variable {digits : List Char} {n : ℕ}

/-- A unit after whole characters is one more, the first half of a pair, or broken. -/
lemma denoted_pushUnit_bytes (hw : Denotes w bs) (hunit : IsUnit digits n) :
    Denoted (w ++ unitOf digits) (Reading.pushUnit ⟨some bs.reverse, none⟩ n) := by
  have hlt := hunit.lt
  by_cases hhigh : Reading.isHigh n = true
  · have hpush : Reading.pushUnit ⟨some bs.reverse, none⟩ n = ⟨some bs.reverse, some n⟩ := by
      simp [Reading.pushUnit, hhigh]
    rw [hpush]
    exact .waiting hw hunit hhigh
  by_cases hlow : Reading.isLow n = true
  · have hpush : Reading.pushUnit ⟨some bs.reverse, none⟩ n = .broken := by
      simp [Reading.pushUnit, hhigh, hlow]
    rw [hpush]
    exact .broken _ _
  · have hpush : Reading.pushUnit ⟨some bs.reverse, none⟩ n =
        Reading.push ⟨some bs.reverse, none⟩ (String.utf8EncodeChar (Char.ofNat n)) := by
      simp [Reading.pushUnit, hhigh, hlow]
    have hvalue : (Char.ofNat n).toNat = n := by
      simp only [Reading.isHigh, Reading.isLow, Bool.and_eq_true, decide_eq_true_eq] at hhigh hlow
      exact Text.val_ofNat (by omega)
    rw [← hvalue] at hunit
    rw [hpush, push_bytes]
    exact .bytes (hw.append (Spells.unit hunit).denotes)

/-- A unit after the first half of a pair is the second half, or broken. -/
lemma denoted_pushUnit_waiting {first : List Char} {high : ℕ} (hw : Denotes w bs)
    (hfirst : IsUnit first high) (hhigh : Reading.isHigh high = true) (hunit : IsUnit digits n) :
    Denoted (w ++ unitOf first ++ unitOf digits)
      (Reading.pushUnit ⟨some bs.reverse, some high⟩ n) := by
  have hlt := hunit.lt
  by_cases hlow : Reading.isLow n = true
  · have hpush : Reading.pushUnit ⟨some bs.reverse, some high⟩ n =
        Reading.push ⟨some bs.reverse, none⟩ (String.utf8EncodeChar
          (Char.ofNat (0x10000 + (high - 0xd800) * 0x400 + (n - 0xdc00)))) := by
      simp [Reading.pushUnit, hlow]
    simp only [Reading.isHigh, Reading.isLow, Bool.and_eq_true, decide_eq_true_eq] at hhigh hlow
    have hvalue := Text.val_ofNat (n := 0x10000 + (high - 0xd800) * 0x400 + (n - 0xdc00))
      (by omega)
    have hpair := (Spells.pair hfirst hunit hhigh hlow hvalue).denotes
    rw [hpush, push_bytes, List.append_assoc, ← utf8_append]
    exact .bytes (hw.append hpair)
  · have hpush : Reading.pushUnit ⟨some bs.reverse, some high⟩ n = .broken := by
      simp [Reading.pushUnit, hlow]
    rw [hpush]
    exact .broken _ _

lemma denoted_pushUnit (h : Denoted w r) (hunit : IsUnit digits n) :
    Denoted (w ++ unitOf digits) (r.pushUnit n) := by
  cases h with
  | bytes hw => exact denoted_pushUnit_bytes hw hunit
  | waiting hw hfirst hhigh => exact denoted_pushUnit_waiting hw hfirst hhigh hunit
  | broken w high =>
    obtain ⟨high', hpush⟩ := exists_pushUnit_none high n
    rw [hpush]
    exact .broken _ _

lemma byte (h : Reads w r) {b : UInt8} (hb : 0x20 ≤ b.toNat) (hquote : b ≠ 0x22)
    (hslash : b ≠ 0x5c) : Reads (w ++ [b]) (r.push [b]) := by
  refine ⟨h.pieces.append (Piece.byte hb hquote hslash).pieces, h.run_append fun rev => ?_,
    denoted_push h.denoted (denotes_byte hb hquote hslash)⟩
  have hcontrol : ¬ b.toNat < 0x20 := Nat.not_lt_of_le hb
  simp [Lexer.push?, hquote, hslash, hcontrol]

lemma short (h : Reads w r) {letter c : Char} (hletter : (letter, c) ∈ shortEscapes) :
    Reads (w ++ utf8 ['\\', letter]) (r.push (String.utf8EncodeChar c)) :=
  ⟨h.pieces.append (Piece.short hletter).pieces,
    h.run_append fun _ => Lexer.read?_short r hletter,
    denoted_push h.denoted (Spells.short hletter).denotes⟩

lemma unit (h : Reads w r) (hunit : IsUnit digits n) :
    Reads (w ++ unitOf digits) (r.pushUnit n) :=
  ⟨h.pieces.append (Piece.unit hunit).pieces, h.run_append fun _ => Lexer.read?_unit r hunit,
    denoted_pushUnit h.denoted hunit⟩

lemma exists_append (h : Reads w r) (h' : Pieces w') : ∃ r', Reads (w ++ w') r' := by
  induction h' generalizing w r with
  | nil => exact ⟨r, by rwa [List.append_nil]⟩
  | cons hp _ ih =>
    rw [← List.append_assoc]
    cases hp with
    | byte hb hquote hslash => exact ih (h.byte hb hquote hslash)
    | short hletter => exact ih (h.short hletter)
    | unit hunit => exact ih (h.unit hunit)

/-- A string is read as a text exactly when it is a spelling of this text. -/
lemma text?_eq_some (h : Reads w r) {s : String} :
    r.text? = some s ↔ ∃ l, SpellsAll s.toList l ∧ w = utf8 l := by
  constructor
  · intro htext
    cases h.denoted with
    | @bytes _ bs hw =>
      have hbytes : Text.ofBytes? bs = some s := by simpa [Reading.text?] using htext
      rw [Text.ofBytes?_eq_some.mp hbytes] at hw
      exact hw.exists_spellsAll
    | waiting => cases htext
    | broken _ high => cases high <;> cases htext
  · rintro ⟨l, hl, rfl⟩
    have hread : (⟨.string (.of []), []⟩ : Lexer).read? l =
        some ⟨.string (.of ([] ++ s.toList)), []⟩ :=
      Lexer.read?_spellsAll [] hl
    have hsame := (h.run []).symm.trans hread
    obtain rfl : r = .of s.toList := by simpa using hsame
    rw [Reading.text?_of, String.ofList_toList]

/-- A string between its quotation marks. -/
lemma lexeme (h : Reads w r) : RawLexeme (.string r.text?) (0x22 :: (w ++ [0x22])) := by
  cases htext : r.text? with
  | none =>
    refine .formless h.pieces fun cs l hl hw => ?_
    rw [← String.toList_ofList (l := cs)] at hl
    rw [h.text?_eq_some.mpr ⟨l, hl, hw⟩] at htext
    cases htext
  | some s =>
    obtain ⟨l, hl, rfl⟩ := h.text?_eq_some.mp htext
    have hquoted := RawLexeme.text (Lexeme.string hl)
    rw [utf8_cons, utf8_append] at hquoted
    exact hquoted

end Reads

end Json
end LeaseKeeper
