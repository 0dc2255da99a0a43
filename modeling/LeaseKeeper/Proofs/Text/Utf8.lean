/-
# The bytes of a text are the form of this text

The bytes of a character take the decoder through a partial character to the character itself, in
whatever state it is between characters.  So the text that the bytes of a text are the form of is
that text.
-/
import LeaseKeeper.Text.Utf8
import Mathlib.Data.List.Basic

namespace LeaseKeeper
namespace Text

/-! ### Lead bytes -/

lemma lead_one {b : UInt8} (h : b.toNat ≤ 0x7f) : lead b = .whole (Char.ofNat b.toNat) := by
  simp only [lead, if_pos h]

lemma lead_two {b : UInt8} (h : 0xc2 ≤ b.toNat) (h' : b.toNat ≤ 0xdf) :
    lead b = .start ⟨b.toNat - 0xc0, 1, 0x80, 0xbf⟩ := by
  have hone : ¬ b.toNat ≤ 0x7f := by omega
  simp only [lead, if_neg hone, if_pos (And.intro h h')]

/-- A lead byte of three narrows the range of the byte after it in two cases. -/
lemma lead_three {b : UInt8} (h : 0xe0 ≤ b.toNat) (h' : b.toNat ≤ 0xef) :
    ∃ least greatest, lead b = .start ⟨b.toNat - 0xe0, 2, least, greatest⟩ ∧
      ∀ n, 0x80 ≤ n → n ≤ 0xbf → (b.toNat = 0xe0 → 0xa0 ≤ n) → (b.toNat = 0xed → n ≤ 0x9f) →
        least ≤ n ∧ n ≤ greatest := by
  have hone : ¬ b.toNat ≤ 0x7f := by omega
  have htwo : ¬ (0xc2 ≤ b.toNat ∧ b.toNat ≤ 0xdf) := by omega
  simp only [lead, if_neg hone, if_neg htwo]
  by_cases hfirst : b.toNat = 0xe0
  · rw [if_pos hfirst, hfirst]
    exact ⟨0xa0, 0xbf, rfl, fun n _ hn hleast _ => ⟨hleast rfl, hn⟩⟩
  · by_cases hed : b.toNat = 0xed
    · rw [if_neg hfirst, if_pos hed, hed]
      exact ⟨0x80, 0x9f, rfl, fun n hn _ _ hgreatest => ⟨hn, hgreatest rfl⟩⟩
    · have hrest : 0xe1 ≤ b.toNat ∧ b.toNat ≤ 0xef := by omega
      rw [if_neg hfirst, if_neg hed, if_pos hrest]
      exact ⟨0x80, 0xbf, rfl, fun n hn hn' _ _ => ⟨hn, hn'⟩⟩

/-- A lead byte of four narrows the range of the byte after it in two cases. -/
lemma lead_four {b : UInt8} (h : 0xf0 ≤ b.toNat) (h' : b.toNat ≤ 0xf4) :
    ∃ least greatest, lead b = .start ⟨b.toNat - 0xf0, 3, least, greatest⟩ ∧
      ∀ n, 0x80 ≤ n → n ≤ 0xbf → (b.toNat = 0xf0 → 0x90 ≤ n) → (b.toNat = 0xf4 → n ≤ 0x8f) →
        least ≤ n ∧ n ≤ greatest := by
  have hone : ¬ b.toNat ≤ 0x7f := by omega
  have htwo : ¬ (0xc2 ≤ b.toNat ∧ b.toNat ≤ 0xdf) := by omega
  have hthree : ¬ (0xe1 ≤ b.toNat ∧ b.toNat ≤ 0xef) := by omega
  have hfirst : b.toNat ≠ 0xe0 := by omega
  have hed : b.toNat ≠ 0xed := by omega
  simp only [lead, if_neg hone, if_neg htwo, if_neg hthree, if_neg hfirst, if_neg hed]
  by_cases hzero : b.toNat = 0xf0
  · rw [if_pos hzero, hzero]
    exact ⟨0x90, 0xbf, rfl, fun n _ hn hleast _ => ⟨hleast rfl, hn⟩⟩
  · by_cases hmid : 0xf1 ≤ b.toNat ∧ b.toNat ≤ 0xf3
    · rw [if_neg hzero, if_pos hmid]
      exact ⟨0x80, 0xbf, rfl, fun n hn hn' _ _ => ⟨hn, hn'⟩⟩
    · have hlast : b.toNat = 0xf4 := by omega
      rw [if_neg hzero, if_neg hmid, if_pos hlast, hlast]
      exact ⟨0x80, 0x8f, rfl, fun n hn _ _ hgreatest => ⟨hn, hgreatest rfl⟩⟩

/-! ### Characters -/

lemma toNat_ofNat_of_lt {n : ℕ} (h : n < 256) : (UInt8.ofNat n).toNat = n := by
  rw [UInt8.toNat_ofNat']
  exact Nat.mod_eq_of_lt (by omega)

lemma Partial.push_of_eq {p : Partial} {b : UInt8} {n : ℕ} (hb : b.toNat = n + 0x80) :
    p.push b = ⟨p.bits * 64 + n, p.owed - 1, 0x80, 0xbf⟩ := by
  have hn : b.toNat - 0x80 = n := by omega
  unfold Partial.push
  rw [hn]

namespace Decoder

variable {least greatest : ℕ}

/-- A further byte carries the last six bits of a number. -/
lemma takes_tail (bits owed n : ℕ) (h : least ≤ n % 64 + 128 ∧ n % 64 + 128 ≤ greatest) :
    (Partial.mk bits owed least greatest).takes (UInt8.ofNat (n % 64 + 128)) = true ∧
      (Partial.mk bits owed least greatest).push (UInt8.ofNat (n % 64 + 128)) =
        ⟨bits * 64 + n % 64, owed - 1, 0x80, 0xbf⟩ := by
  have hb : (UInt8.ofNat (n % 64 + 128)).toNat = n % 64 + 128 := toNat_ofNat_of_lt (by omega)
  refine ⟨?_, Partial.push_of_eq hb⟩
  rw [Partial.takes, hb]
  simpa using h

lemma push_more {bits : ℕ} (owed n : ℕ) (ps : List (Option Char))
    (h : least ≤ n % 64 + 128 ∧ n % 64 + 128 ≤ greatest) :
    push ⟨some ⟨bits, owed + 2, least, greatest⟩, ps⟩ (UInt8.ofNat (n % 64 + 128)) =
      ⟨some ⟨bits * 64 + n % 64, owed + 1, 0x80, 0xbf⟩, ps⟩ := by
  obtain ⟨htakes, hpush⟩ := takes_tail bits (owed + 2) n h
  simp only [push, htakes, if_true, hpush]
  rfl

lemma push_last {bits : ℕ} (n : ℕ) (ps : List (Option Char))
    (h : least ≤ n % 64 + 128 ∧ n % 64 + 128 ≤ greatest) :
    push ⟨some ⟨bits, 1, least, greatest⟩, ps⟩ (UInt8.ofNat (n % 64 + 128)) =
      ⟨none, some (Char.ofNat (bits * 64 + n % 64)) :: ps⟩ := by
  obtain ⟨htakes, hpush⟩ := takes_tail bits 1 n h
  simp only [push, htakes, if_true, hpush]

lemma push_begin {b : UInt8} {p : Partial} (ps : List (Option Char)) (h : lead b = .start p) :
    push ⟨none, ps⟩ b = ⟨some p, ps⟩ := by
  simp only [push, begin, h]

lemma tail_le (n : ℕ) : 0x80 ≤ n % 64 + 128 ∧ n % 64 + 128 ≤ 0xbf := by omega

/-- The bytes of a character take the decoder over this character. -/
lemma foldl_utf8EncodeChar (c : Char) (ps : List (Option Char)) :
    (String.utf8EncodeChar c).foldl push ⟨none, ps⟩ = ⟨none, some c :: ps⟩ := by
  have hvalid : c.val.toNat < 0xd800 ∨ 0xdfff < c.val.toNat ∧ c.val.toNat < 0x110000 := c.valid
  have hc : Char.ofNat c.val.toNat = c := Char.ofNat_toNat c
  unfold String.utf8EncodeChar
  generalize c.val.toNat = v at hvalid hc
  -- The number of bytes follows from the range in which the character lies.
  by_cases hone : v ≤ 127
  · have hb : (UInt8.ofNat v).toNat = v := toNat_ofNat_of_lt (by omega)
    have hlead : lead (UInt8.ofNat v) = .whole c := by
      rw [lead_one (by omega), hb, hc]
    simp only [if_pos hone, List.foldl_cons, List.foldl_nil, push, begin, hlead]
  by_cases htwo : v ≤ 2047
  · have hb : (UInt8.ofNat (v / 64 % 32 + 192)).toNat = v / 64 % 32 + 192 :=
      toNat_ofNat_of_lt (by omega)
    have hlead := lead_two (b := UInt8.ofNat (v / 64 % 32 + 192)) (by omega) (by omega)
    have hv : (v / 64 % 32 + 192 - 192) * 64 + v % 64 = v := by omega
    simp only [if_neg hone, if_pos htwo, List.foldl_cons, List.foldl_nil]
    rw [push_begin ps hlead, push_last v ps (tail_le v), hb, hv, hc]
  by_cases hthree : v ≤ 65535
  · have hb : (UInt8.ofNat (v / 4096 % 16 + 224)).toNat = v / 4096 % 16 + 224 :=
      toNat_ofNat_of_lt (by omega)
    obtain ⟨least, greatest, hlead, hrange⟩ :=
      lead_three (b := UInt8.ofNat (v / 4096 % 16 + 224)) (by omega) (by omega)
    have hsecond : least ≤ v / 64 % 64 + 128 ∧ v / 64 % 64 + 128 ≤ greatest :=
      hrange _ (by omega) (by omega) (by omega) (by omega)
    have hv : ((v / 4096 % 16 + 224 - 224) * 64 + v / 64 % 64) * 64 + v % 64 = v := by omega
    simp only [if_neg hone, if_neg htwo, if_pos hthree, List.foldl_cons, List.foldl_nil]
    rw [push_begin ps hlead, push_more 0 (v / 64) ps hsecond, push_last v ps (tail_le v), hb, hv,
      hc]
  · have hb : (UInt8.ofNat (v / 262144 % 8 + 240)).toNat = v / 262144 % 8 + 240 :=
      toNat_ofNat_of_lt (by omega)
    obtain ⟨least, greatest, hlead, hrange⟩ :=
      lead_four (b := UInt8.ofNat (v / 262144 % 8 + 240)) (by omega) (by omega)
    have hsecond : least ≤ v / 4096 % 64 + 128 ∧ v / 4096 % 64 + 128 ≤ greatest :=
      hrange _ (by omega) (by omega) (by omega) (by omega)
    have hv : (((v / 262144 % 8 + 240 - 240) * 64 + v / 4096 % 64) * 64 + v / 64 % 64) * 64 +
        v % 64 = v := by omega
    simp only [if_neg hone, if_neg htwo, if_neg hthree, List.foldl_cons, List.foldl_nil]
    rw [push_begin ps hlead, push_more 1 (v / 4096) ps hsecond,
      push_more 0 (v / 64) ps (tail_le _), push_last v ps (tail_le v), hb, hv, hc]

lemma foldl_bytes (cs : List Char) (ps : List (Option Char)) :
    (cs.flatMap String.utf8EncodeChar).foldl push ⟨none, ps⟩ =
      ⟨none, (cs.map some).reverse ++ ps⟩ := by
  induction cs generalizing ps with
  | nil => rfl
  | cons c rest ih =>
    rw [List.flatMap_cons, List.foldl_append, foldl_utf8EncodeChar, ih]
    simp

end Decoder

/-- The pieces of a text's bytes are its characters. -/
lemma pieces_bytes (cs : List Char) :
    pieces (cs.flatMap String.utf8EncodeChar) = cs.map some := by
  rw [pieces, Decoder.start, Decoder.foldl_bytes]
  simp [Decoder.finish]

/-- All members of a list are read, each as the one from which it is made. -/
lemma mapM_eq_some {α β : Type} {f : α → Option β} {g : β → α}
    (h : ∀ a b, f a = some b ↔ a = g b) {l : List α} {l' : List β} :
    l.mapM f = some l' ↔ l = l'.map g := by
  induction l generalizing l' with
  | nil => cases l' <;> simp
  | cons a rest ih =>
    rw [List.mapM_cons]
    constructor
    · intro hread
      obtain ⟨b, hb, hread⟩ := Option.bind_eq_some_iff.mp hread
      obtain ⟨others, hothers, hread⟩ := Option.bind_eq_some_iff.mp hread
      obtain rfl := Option.some.inj hread
      rw [(h a b).mp hb, ih.mp hothers, List.map_cons]
    · intro hmap
      cases l' with
      | nil => cases hmap
      | cons b others =>
        obtain ⟨ha, hrest⟩ := List.cons.inj hmap
        rw [(h a b).mpr ha, ih.mpr hrest]
        rfl

/-- The bytes of a text are the form of this text. -/
theorem ofBytes?_bytes (s : String) : ofBytes? (bytes s) = some s := by
  have hall : (s.toList.map some).mapM id = some s.toList :=
    (mapM_eq_some fun _ _ => Iff.rfl).mpr rfl
  rw [ofBytes?, bytes, pieces_bytes, hall, Option.map_some, String.ofList_toList]

end Text
end LeaseKeeper
