/-
# Only the bytes of a text are the form of one

A partial character stands for the bytes that have begun it: with the bytes that complete it, they
are the form of the character that it becomes.  So bytes that are read without an error are those of
the characters that have been read.
-/
import LeaseKeeper.Proofs.Text.Utf8
import Mathlib.Data.List.Induction
import Mathlib.Data.Option.Basic

namespace LeaseKeeper
namespace Text

/-! ### The bytes of a character -/

lemma val_ofNat {n : ℕ} (h : n < 0xd800 ∨ 0xdfff < n ∧ n < 0x110000) :
    (Char.ofNat n).val.toNat = n := by
  have hvalid : n.isValidChar := h
  rw [Char.ofNat, dif_pos hvalid]
  rfl

variable {a b c d : UInt8}

/-- A further byte is the last six bits of a number. -/
lemma ofNat_tail {n : ℕ} (hb : 0x80 ≤ b.toNat ∧ b.toNat ≤ 0xbf) (hn : n % 64 = b.toNat - 0x80) :
    UInt8.ofNat (n % 64 + 128) = b := by
  rw [hn, Nat.sub_add_cancel hb.1]
  exact UInt8.ofNat_toNat

lemma utf8EncodeChar_two (ha : 0xc2 ≤ a.toNat ∧ a.toNat ≤ 0xdf)
    (hb : 0x80 ≤ b.toNat ∧ b.toNat ≤ 0xbf) :
    String.utf8EncodeChar (Char.ofNat ((a.toNat - 0xc0) * 64 + (b.toNat - 0x80))) = [a, b] := by
  generalize hv : (a.toNat - 0xc0) * 64 + (b.toNat - 0x80) = v
  have hlead : UInt8.ofNat (v / 64 % 32 + 192) = a := by
    rw [show v / 64 % 32 + 192 = a.toNat by omega]
    exact UInt8.ofNat_toNat
  simp only [String.utf8EncodeChar, val_ofNat (n := v) (by omega)]
  rw [if_neg (by omega), if_pos (by omega), hlead, ofNat_tail (n := v) hb (by omega)]

lemma utf8EncodeChar_three (ha : 0xe0 ≤ a.toNat ∧ a.toNat ≤ 0xef)
    (hb : 0x80 ≤ b.toNat ∧ b.toNat ≤ 0xbf) (hc : 0x80 ≤ c.toNat ∧ c.toNat ≤ 0xbf)
    (hleast : a.toNat = 0xe0 → 0xa0 ≤ b.toNat) (hgreatest : a.toNat = 0xed → b.toNat ≤ 0x9f) :
    String.utf8EncodeChar (Char.ofNat
      (((a.toNat - 0xe0) * 64 + (b.toNat - 0x80)) * 64 + (c.toNat - 0x80))) = [a, b, c] := by
  generalize hv : ((a.toNat - 0xe0) * 64 + (b.toNat - 0x80)) * 64 + (c.toNat - 0x80) = v
  have hlead : UInt8.ofNat (v / 4096 % 16 + 224) = a := by
    rw [show v / 4096 % 16 + 224 = a.toNat by omega]
    exact UInt8.ofNat_toNat
  simp only [String.utf8EncodeChar, val_ofNat (n := v) (by omega)]
  rw [if_neg (by omega), if_neg (by omega), if_pos (by omega), hlead,
    ofNat_tail (n := v / 64) hb (by omega), ofNat_tail (n := v) hc (by omega)]

lemma utf8EncodeChar_four (ha : 0xf0 ≤ a.toNat ∧ a.toNat ≤ 0xf4)
    (hb : 0x80 ≤ b.toNat ∧ b.toNat ≤ 0xbf) (hc : 0x80 ≤ c.toNat ∧ c.toNat ≤ 0xbf)
    (hd : 0x80 ≤ d.toNat ∧ d.toNat ≤ 0xbf) (hleast : a.toNat = 0xf0 → 0x90 ≤ b.toNat)
    (hgreatest : a.toNat = 0xf4 → b.toNat ≤ 0x8f) :
    String.utf8EncodeChar (Char.ofNat ((((a.toNat - 0xf0) * 64 + (b.toNat - 0x80)) * 64 +
      (c.toNat - 0x80)) * 64 + (d.toNat - 0x80))) = [a, b, c, d] := by
  generalize hv : (((a.toNat - 0xf0) * 64 + (b.toNat - 0x80)) * 64 + (c.toNat - 0x80)) * 64 +
    (d.toNat - 0x80) = v
  have hlead : UInt8.ofNat (v / 262144 % 8 + 240) = a := by
    rw [show v / 262144 % 8 + 240 = a.toNat by omega]
    exact UInt8.ofNat_toNat
  simp only [String.utf8EncodeChar, val_ofNat (n := v) (by omega)]
  rw [if_neg (by omega), if_neg (by omega), if_neg (by omega), hlead,
    ofNat_tail (n := v / 4096) hb (by omega), ofNat_tail (n := v / 64) hc (by omega),
    ofNat_tail (n := v) hd (by omega)]

/-- The bytes of a character tell where it ends. -/
lemma utf8EncodeChar_append_inj {c c' : Char} {bs bs' : List UInt8}
    (h : String.utf8EncodeChar c ++ bs = String.utf8EncodeChar c' ++ bs') : c = c' ∧ bs = bs' := by
  have hdecode : ∀ (char : Char) (rest : List UInt8),
      ByteArray.utf8DecodeChar? (String.utf8EncodeChar char ++ rest).toByteArray 0 = some char := by
    intro char rest
    rw [List.toByteArray_append]
    exact ByteArray.utf8DecodeChar?_utf8EncodeChar_append
  have hchar := hdecode c bs
  rw [h, hdecode] at hchar
  obtain rfl := Option.some.inj hchar
  exact ⟨rfl, List.append_cancel_left h⟩

/-- A byte that is not the first one of a character. -/
def IsFurther (b : UInt8) : Prop := 0x80 ≤ b.toNat ∧ b.toNat ≤ 0xbf

/-- The first byte of a character is no further one, and all others are. -/
lemma exists_utf8EncodeChar (char : Char) :
    ∃ first rest, String.utf8EncodeChar char = first :: rest ∧ ¬ IsFurther first ∧
      ∀ b ∈ rest, IsFurther b := by
  have hfirst : ∀ n, n < 0x80 ∨ 0xbf < n ∧ n < 256 → ¬ IsFurther (UInt8.ofNat n) := by
    intro n hn hfurther
    rw [IsFurther, toNat_ofNat_of_lt (by omega)] at hfurther
    omega
  have hrest : ∀ n, IsFurther (UInt8.ofNat (n % 64 + 128)) := by
    intro n
    rw [IsFurther, toNat_ofNat_of_lt (by omega)]
    omega
  unfold String.utf8EncodeChar
  dsimp only
  split_ifs with hone htwo hthree
  · exact ⟨_, _, rfl, hfirst _ (by omega), List.forall_mem_nil _⟩
  · exact ⟨_, _, rfl, hfirst _ (by omega), List.forall_mem_singleton.mpr (hrest _)⟩
  · exact ⟨_, _, rfl, hfirst _ (by omega),
      List.forall_mem_cons.mpr ⟨hrest _, List.forall_mem_singleton.mpr (hrest _)⟩⟩
  · exact ⟨_, _, rfl, hfirst _ (by omega), List.forall_mem_cons.mpr
      ⟨hrest _, List.forall_mem_cons.mpr ⟨hrest _, List.forall_mem_singleton.mpr (hrest _)⟩⟩⟩

/-! ### Partial characters -/

/-- The number of the character that a partial one becomes with further bytes, if they complete
it. -/
def Partial.complete? : Partial → List UInt8 → Option ℕ
  | p, [] => if p.owed = 0 then some p.bits else none
  | p, b :: bs => if p.owed ≠ 0 ∧ p.takes b = true then (p.push b).complete? bs else none

/-- A partial character that is owed one byte more than another one. -/
lemma Partial.complete?_more {bits owed least greatest n : ℕ} {u : List UInt8}
    (h : Partial.complete? ⟨bits, owed + 1, least, greatest⟩ u = some n) :
    ∃ b rest, u = b :: rest ∧ (least ≤ b.toNat ∧ b.toNat ≤ greatest) ∧
      Partial.complete? ⟨bits * 64 + (b.toNat - 0x80), owed, 0x80, 0xbf⟩ rest = some n := by
  cases u with
  | nil => simp [complete?] at h
  | cons b rest =>
    simp only [complete?] at h
    split_ifs at h with htakes
    refine ⟨b, rest, rfl, ?_, h⟩
    simpa [takes] using htakes.2

lemma Partial.complete?_done {bits least greatest n : ℕ} {u : List UInt8}
    (h : Partial.complete? ⟨bits, 0, least, greatest⟩ u = some n) : u = [] ∧ bits = n := by
  cases u with
  | nil => exact ⟨rfl, by simpa [complete?] using h⟩
  | cons b rest => simp [complete?] at h

/-- Bytes that have begun a partial character: with all bytes that complete it, they are the form of
the character.  Between two characters there are none. -/
def Begins (t : List UInt8) : Option Partial → Prop
  | none => t = []
  | some p => p.owed ≠ 0 ∧
    ∀ u n, p.complete? u = some n → t ++ u = String.utf8EncodeChar (Char.ofNat n)

lemma begins_two (ha : 0xc2 ≤ a.toNat ∧ a.toNat ≤ 0xdf) :
    Begins [a] (some ⟨a.toNat - 0xc0, 1, 0x80, 0xbf⟩) := by
  refine ⟨by simp, fun u n hu => ?_⟩
  obtain ⟨b, u, rfl, hb, hu⟩ := Partial.complete?_more hu
  obtain ⟨rfl, rfl⟩ := Partial.complete?_done hu
  exact (utf8EncodeChar_two ha hb).symm

lemma begins_three {least greatest : ℕ} (ha : 0xe0 ≤ a.toNat ∧ a.toNat ≤ 0xef)
    (hrange : 0x80 ≤ least ∧ greatest ≤ 0xbf) (hleast : a.toNat = 0xe0 → 0xa0 ≤ least)
    (hgreatest : a.toNat = 0xed → greatest ≤ 0x9f) :
    Begins [a] (some ⟨a.toNat - 0xe0, 2, least, greatest⟩) := by
  refine ⟨by simp, fun u n hu => ?_⟩
  obtain ⟨b, u, rfl, hb, hu⟩ := Partial.complete?_more hu
  obtain ⟨c, u, rfl, hc, hu⟩ := Partial.complete?_more hu
  obtain ⟨rfl, rfl⟩ := Partial.complete?_done hu
  exact (utf8EncodeChar_three ha (by omega) hc (by omega) (by omega)).symm

lemma begins_four {least greatest : ℕ} (ha : 0xf0 ≤ a.toNat ∧ a.toNat ≤ 0xf4)
    (hrange : 0x80 ≤ least ∧ greatest ≤ 0xbf) (hleast : a.toNat = 0xf0 → 0x90 ≤ least)
    (hgreatest : a.toNat = 0xf4 → greatest ≤ 0x8f) :
    Begins [a] (some ⟨a.toNat - 0xf0, 3, least, greatest⟩) := by
  refine ⟨by simp, fun u n hu => ?_⟩
  obtain ⟨b, u, rfl, hb, hu⟩ := Partial.complete?_more hu
  obtain ⟨c, u, rfl, hc, hu⟩ := Partial.complete?_more hu
  obtain ⟨d, u, rfl, hd, hu⟩ := Partial.complete?_more hu
  obtain ⟨rfl, rfl⟩ := Partial.complete?_done hu
  exact (utf8EncodeChar_four ha (by omega) hc hd (by omega) (by omega)).symm

/-- A lead byte begins the partial character that it leads to. -/
lemma begins_lead {p : Partial} (h : lead a = .start p) : Begins [a] (some p) := by
  -- Four of the lead bytes narrow the range of the byte after them.
  unfold lead at h
  dsimp only at h
  split_ifs at h with hone htwo he0 hed hthree hf0 hfour hf4
  · obtain rfl := Lead.start.inj h
    exact begins_two htwo
  · obtain rfl := Lead.start.inj h
    have hbegins : Begins [a] (some ⟨a.toNat - 0xe0, 2, 0xa0, 0xbf⟩) :=
      begins_three (by omega) (by omega) (by omega) (by omega)
    rwa [he0] at hbegins
  · obtain rfl := Lead.start.inj h
    have hbegins : Begins [a] (some ⟨a.toNat - 0xe0, 2, 0x80, 0x9f⟩) :=
      begins_three (by omega) (by omega) (by omega) (by omega)
    rwa [hed] at hbegins
  · obtain rfl := Lead.start.inj h
    exact begins_three (by omega) (by omega) (by omega) (by omega)
  · obtain rfl := Lead.start.inj h
    have hbegins : Begins [a] (some ⟨a.toNat - 0xf0, 3, 0x90, 0xbf⟩) :=
      begins_four (by omega) (by omega) (by omega) (by omega)
    rwa [hf0] at hbegins
  · obtain rfl := Lead.start.inj h
    exact begins_four (by omega) (by omega) (by omega) (by omega)
  · obtain rfl := Lead.start.inj h
    have hbegins : Begins [a] (some ⟨a.toNat - 0xf0, 3, 0x80, 0x8f⟩) :=
      begins_four (by omega) (by omega) (by omega) (by omega)
    rwa [hf4] at hbegins

lemma lead_whole {char : Char} (h : lead b = .whole char) : [b] = String.utf8EncodeChar char := by
  unfold lead at h
  dsimp only at h
  split_ifs at h with hone
  obtain rfl := Lead.whole.inj h
  simp only [String.utf8EncodeChar, val_ofNat (n := b.toNat) (by omega)]
  rw [if_pos hone, UInt8.ofNat_toNat]

/-! ### The decoder -/

namespace Decoder

/-- A decoder has read characters, and bytes that have begun another one. -/
def HasRead (d : Decoder) (bs : List UInt8) : Prop :=
  ∃ (cs : List Char) (t : List UInt8), d.pieces = (cs.map some).reverse ∧
    bs = cs.flatMap String.utf8EncodeChar ++ t ∧ Begins t d.pending

variable {d : Decoder} {bs t : List UInt8} {cs : List Char}

lemma subset_begin (b : UInt8) (ps : List (Option Char)) : ps ⊆ (begin ps b).pieces := by
  unfold begin
  cases lead b with
  | whole c => exact List.subset_cons_self _ _
  | start p => exact List.Subset.refl _
  | wrong => exact List.subset_cons_self _ _

/-- Pieces stay. -/
lemma subset_push (d : Decoder) (b : UInt8) : d.pieces ⊆ (d.push b).pieces := by
  unfold push
  cases d.pending with
  | none => exact subset_begin b _
  | some p =>
    dsimp only
    split_ifs
    · exact List.subset_cons_self _ _
    · exact List.Subset.refl _
    · exact fun x hx => subset_begin b _ (List.mem_cons_of_mem _ hx)

/-- A byte that is taken between characters. -/
lemma hasRead_begin (b : UInt8) {ps : List (Option Char)} (hps : ps = (cs.map some).reverse)
    (hbs : bs = cs.flatMap String.utf8EncodeChar) (hnone : none ∉ (begin ps b).pieces) :
    (begin ps b).HasRead (bs ++ [b]) := by
  unfold begin at hnone ⊢
  cases hlead : lead b with
  | whole c =>
    refine ⟨cs ++ [c], [], ?_, ?_, rfl⟩
    · simp [hps]
    · rw [hbs, lead_whole hlead]
      simp
  | start p => exact ⟨cs, [b], hps, by rw [hbs], begins_lead hlead⟩
  | wrong => simp [hlead] at hnone

lemma HasRead.push (h : d.HasRead bs) (b : UInt8) (hnone : none ∉ (d.push b).pieces) :
    (d.push b).HasRead (bs ++ [b]) := by
  obtain ⟨cs, t, hps, hbs, hbegins⟩ := h
  unfold Decoder.push at hnone ⊢
  cases hpending : d.pending with
  | none =>
    rw [hpending] at hnone hbegins
    obtain rfl : t = [] := hbegins
    rw [List.append_nil] at hbs
    exact hasRead_begin b hps hbs hnone
  | some p =>
    rw [hpending] at hnone hbegins
    dsimp only at hnone ⊢
    by_cases htakes : p.takes b = true
    · rw [if_pos htakes] at hnone ⊢
      -- What completes the character after this byte completes it before with this byte.
      obtain ⟨howes, hcompletes⟩ := hbegins
      have hmore : ∀ u n, (p.push b).complete? u = some n →
          t ++ b :: u = String.utf8EncodeChar (Char.ofNat n) := by
        intro u n hu
        refine hcompletes (b :: u) n ?_
        rw [Partial.complete?, if_pos ⟨howes, htakes⟩, hu]
      by_cases howed : (p.push b).owed = 0
      · rw [if_pos howed]
        have hchar := hmore [] (p.push b).bits (by rw [Partial.complete?, if_pos howed])
        refine ⟨cs ++ [Char.ofNat (p.push b).bits], [], ?_, ?_, rfl⟩
        · simp [hps]
        · simp [hbs, ← hchar]
      · rw [if_neg howed]
        refine ⟨cs, t ++ [b], hps, by rw [hbs, List.append_assoc], howed, fun u n hu => ?_⟩
        rw [List.append_assoc]
        exact hmore u n hu
    · -- A character that is cut short is an error.
      rw [if_neg htakes] at hnone
      exact absurd (subset_begin b _ (List.mem_cons_self ..)) hnone

/-- A decoder that has met no error so far has read characters, and bytes that have begun another
one. -/
lemma hasRead_foldl (bs : List UInt8) (hnone : none ∉ (bs.foldl push start).pieces) :
    (bs.foldl push start).HasRead bs := by
  induction bs using List.reverseRecOn with
  | nil => exact ⟨[], [], rfl, rfl, rfl⟩
  | append_singleton bs b ih =>
    rw [List.foldl_append, List.foldl_cons, List.foldl_nil] at hnone ⊢
    exact (ih fun hmem => hnone (subset_push _ b hmem)).push b hnone

end Decoder

/-- Bytes are the form of a text exactly when they are its bytes. -/
theorem ofBytes?_eq_some {bs : List UInt8} {s : String} : ofBytes? bs = some s ↔ bs = bytes s := by
  constructor
  · intro h
    obtain ⟨cs, hcs, rfl⟩ := Option.map_eq_some_iff.mp h
    have hpieces : pieces bs = cs.map some := (mapM_eq_some fun _ _ => Iff.rfl).mp hcs
    unfold pieces Decoder.finish at hpieces
    cases hpending : (bs.foldl Decoder.push .start).pending with
    | none =>
      rw [hpending] at hpieces
      have hreverse : (bs.foldl Decoder.push .start).pieces = (cs.map some).reverse := by
        rw [← hpieces, List.reverse_reverse]
      obtain ⟨cs', t, hps, hbs, hbegins⟩ := Decoder.hasRead_foldl bs (by simp [hreverse])
      rw [hpending] at hbegins
      obtain rfl : t = [] := hbegins
      obtain rfl : cs = cs' := by
        refine List.map_injective_iff.mpr (Option.some_injective _) ?_
        exact List.reverse_injective (hreverse.symm.trans hps)
      rw [hbs, bytes, String.toList_ofList, List.append_nil]
    | some p =>
      -- A character that is cut short is an error.
      rw [hpending] at hpieces
      have hmem : none ∈ cs.map some := by
        rw [← hpieces]
        simp
      simp at hmem
  · rintro rfl
    exact ofBytes?_bytes s

/-! ### Bytes that need not be the form of a text -/

/-- The characters at the beginning are among those of the whole. -/
lemma mem_ofBytesLossy {cs : List Char} {c : Char} (hc : c ∈ cs) (bs : List UInt8) :
    c ∈ (ofBytesLossy (cs.flatMap String.utf8EncodeChar ++ bs)).toList := by
  have hstay : ∀ (bs : List UInt8) (d : Decoder), d.pieces ⊆ (bs.foldl Decoder.push d).pieces := by
    intro bs
    induction bs with
    | nil => exact fun d => List.Subset.refl _
    | cons b rest ih => exact fun d => List.Subset.trans (Decoder.subset_push d b) (ih _)
  have hpiece : some c ∈ pieces (cs.flatMap String.utf8EncodeChar ++ bs) := by
    have hread : some c ∈ (bs.foldl Decoder.push ⟨none, (cs.map some).reverse ++ []⟩).pieces :=
      hstay bs _ (by simpa using hc)
    rw [pieces, Decoder.start, List.foldl_append, Decoder.foldl_bytes]
    unfold Decoder.finish
    cases (bs.foldl Decoder.push ⟨none, (cs.map some).reverse ++ []⟩).pending with
    | none => exact List.mem_reverse.mpr hread
    | some p => exact List.mem_reverse.mpr (List.mem_cons_of_mem _ hread)
  rw [ofBytesLossy, String.toList_ofList]
  exact List.mem_map.mpr ⟨some c, hpiece, rfl⟩

end Text
end LeaseKeeper
