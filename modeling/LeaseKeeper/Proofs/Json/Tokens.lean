/-
# The tokens of written bytes

The reader takes the spellings of the tokens one after the other.  A number is complete only when
something else follows it, so a token is held back while the reader is still in it.  The other way
round, whatever the reader has come through are the spellings of the tokens that it has taken, and
the beginning of one more.  So it reads some tokens exactly where they are written.
-/
import LeaseKeeper.Proofs.Json.Strings
import Mathlib.Data.List.Chain

namespace LeaseKeeper
namespace Json

namespace Lexer

variable {rev : List Token}

/-! ### Written tokens are read -/

/-- The reader has read some tokens, and perhaps it is still in the last one, a number. -/
inductive Holds : List Token → Lexer → Prop
  | between (rev : List Token) : Holds rev ⟨.between, rev⟩
  | number {part : NumberPart} (digits : List UInt8) (rev : List Token)
      (h : part.isComplete = true) : Holds (numberToken digits :: rev) ⟨.number part digits, rev⟩

lemma Holds.finish? {l : Lexer} (h : Holds rev l) : l.finish? = some rev.reverse := by
  cases h with
  | between => rfl
  | number digits rev hpart => simp [Lexer.finish?, hpart]

/-- Whether no number goes on with a byte. -/
def endsNumber (b : UInt8) : Bool :=
  !(NumberPart.isDigit b || ['.', 'e', 'E'].contains (Char.ofNat b.toNat))

/-- A byte with which no number goes on is taken as between two tokens. -/
lemma Holds.push? {l : Lexer} {b : UInt8} (h : Holds rev l) (hb : endsNumber b = true) :
    l.push? b = begin? rev b := by
  cases h with
  | between => rfl
  | @number part digits rev hpart =>
    have hnext : part.next b = none := by
      simp [endsNumber] at hb
      cases part with
      | zero => simp [NumberPart.next, hb]
      | whole => simp [NumberPart.next, hb]
      | fraction => simp [NumberPart.next, hb]
      | exponent => simp [NumberPart.next, hb]
      | _ => cases hpart
    simp [Lexer.push?, hnext, hpart]

lemma Holds.read?_blank {l : Lexer} {blank : List Char} (h : Holds rev l) (hb : IsBlank blank) :
    ∃ l', l.read? blank = some l' ∧ Holds rev l' ∧ (l.mode = .between → l'.mode = .between) := by
  induction blank generalizing l with
  | nil => exact ⟨l, rfl, h, id⟩
  | cons c rest ih =>
    have hspace : c.toNat < 0x80 ∧ endsNumber (UInt8.ofNat c.toNat) = true ∧
        isSpace (UInt8.ofNat c.toNat) = true := by
      rcases hb c (List.mem_cons_self ..) with rfl | rfl | rfl | rfl <;> decide
    obtain ⟨hascii, hends, hspace⟩ := hspace
    have hpush : l.push? (UInt8.ofNat c.toNat) = some ⟨.between, rev⟩ := by
      rw [h.push? hends, begin?, if_pos hspace]
    obtain ⟨l', hread, hholds, hmode⟩ :=
      ih (.between rev) fun c' hc' => hb c' (List.mem_cons_of_mem _ hc')
    exact ⟨l', by rw [read?_cons _ hascii, hpush, Option.bind_some, hread], hholds,
      fun _ => hmode rfl⟩

/-- A token other than a number, from its first character on. -/
lemma Holds.read?_cons {l l' : Lexer} {c : Char} {w : List Char} {t : Token} (h : Holds rev l)
    (hc : c.toNat < 0x80) (hends : endsNumber (UInt8.ofNat c.toNat) = true)
    (hbegin : begin? rev (UInt8.ofNat c.toNat) = some l')
    (hrest : l'.read? w = some ⟨.between, t :: rev⟩) :
    ∃ l'', l.read? (c :: w) = some l'' ∧ Holds (t :: rev) l'' ∧ l''.mode = .between := by
  refine ⟨⟨.between, t :: rev⟩, ?_, .between _, rfl⟩
  rw [Lexer.read?_cons _ hc, h.push? hends, hbegin, Option.bind_some, hrest]

end Lexer

/-- Whether a token is a number. -/
def Token.isNumber : Token → Bool
  | .number _ => true
  | _ => false

/-- Two tokens that may follow one another without white space: they are not both numbers. -/
def Token.Parts (t t' : Token) : Prop := t.isNumber = true → t'.isNumber = false

namespace Lexer

variable {rev : List Token}

/-- One more token.  A number must not follow another one. -/
lemma Holds.read?_lexeme {l : Lexer} {t : Token} {w : List Char} (hl : Holds rev l)
    (h : Lexeme t w) (hnumber : t.isNumber = true → l.mode = .between) :
    ∃ l', l.read? w = some l' ∧ Holds (t :: rev) l' ∧
      (t.isNumber = false → l'.mode = .between) := by
  have hother : (∃ l', l.read? w = some l' ∧ Holds (t :: rev) l' ∧ l'.mode = .between) →
      ∃ l', l.read? w = some l' ∧ Holds (t :: rev) l' ∧
        (t.isNumber = false → l'.mode = .between) :=
    fun ⟨l', hread, hholds, hmode⟩ => ⟨l', hread, hholds, fun _ => hmode⟩
  cases h with
  | openObject => exact hother (hl.read?_cons (by decide) (by decide) rfl rfl)
  | closeObject => exact hother (hl.read?_cons (by decide) (by decide) rfl rfl)
  | openArray => exact hother (hl.read?_cons (by decide) (by decide) rfl rfl)
  | closeArray => exact hother (hl.read?_cons (by decide) (by decide) rfl rfl)
  | comma => exact hother (hl.read?_cons (by decide) (by decide) rfl rfl)
  | colon => exact hother (hl.read?_cons (by decide) (by decide) rfl rfl)
  | null => exact hother (hl.read?_cons (by decide) (by decide) rfl rfl)
  | true => exact hother (hl.read?_cons (by decide) (by decide) rfl rfl)
  | false => exact hother (hl.read?_cons (by decide) (by decide) rfl rfl)
  | string hs => exact hother (hl.read?_cons (by decide) (by decide) rfl (read?_quoted hs))
  | number hn =>
    cases hl with
    | between =>
      obtain ⟨p, hcomplete, hread⟩ := read?_isNumber rev hn
      refine ⟨_, hread, ?_, nofun⟩
      rw [← numberToken_eq hn.lt]
      exact .number _ _ hcomplete
    | number => cases hnumber rfl

/-- One more token, as it is written in bytes. -/
lemma Holds.foldlM_lexeme {l : Lexer} {t : Token} {w : List UInt8} (hl : Holds rev l)
    (h : RawLexeme t w) (hnumber : t.isNumber = true → l.mode = .between) :
    ∃ l', w.foldlM Lexer.push? l = some l' ∧ Holds (t :: rev) l' ∧
      (t.isNumber = false → l'.mode = .between) := by
  cases h with
  | text hlexeme => exact hl.read?_lexeme hlexeme hnumber
  | @formless w hpieces hno =>
    obtain ⟨r, hr⟩ := Reads.start.exists_append hpieces
    have htext : r.text? = none := by
      refine Option.eq_none_iff_forall_ne_some.mpr fun s hs => ?_
      obtain ⟨l, hl, hw⟩ := hr.text?_eq_some.mp hs
      exact hno _ _ hl hw
    have hbegin : l.push? 0x22 = some ⟨.string .start, rev⟩ := hl.push? (by decide)
    have hend : Lexer.push? ⟨.string r, rev⟩ 0x22 = some ⟨.between, .string none :: rev⟩ := by
      rw [← htext]
      rfl
    refine ⟨⟨.between, .string none :: rev⟩, ?_, .between _, fun _ => rfl⟩
    rw [List.foldlM_cons, hbegin]
    change (w ++ [0x22]).foldlM Lexer.push? ⟨.string .start, rev⟩ = _
    rw [List.foldlM_append]
    have hrun := hr.run rev
    rw [List.nil_append] at hrun
    rw [hrun]
    change Option.bind (Lexer.push? ⟨.string r, rev⟩ 0x22) some = _
    rw [hend]
    rfl

/-- After written tokens the reader has read them. -/
lemma Holds.foldlM_written {l : Lexer} {ts : List Token} {w : List UInt8} (hl : Holds rev l)
    (h : RawWritten ts w) (hchain : ts.IsChain Token.Parts)
    (hhead : ∀ t ∈ ts.head?, t.isNumber = true → l.mode = .between) :
    ∃ l', w.foldlM Lexer.push? l = some l' ∧ Holds (ts.reverse ++ rev) l' := by
  -- Each token but a number leaves the reader between tokens, where any token may begin.
  induction h generalizing l rev with
  | done hb =>
    obtain ⟨l', hread, hholds, -⟩ := hl.read?_blank hb
    exact ⟨l', hread, hholds⟩
  | @cons t ts blank w rest hb hlexeme _ ih =>
    obtain ⟨l₁, hread₁, hholds₁, hmode₁⟩ := hl.read?_blank hb
    obtain ⟨l₂, hread₂, hholds₂, hmode₂⟩ :=
      hholds₁.foldlM_lexeme hlexeme fun ht => hmode₁ (hhead t rfl ht)
    obtain ⟨l', hread, hholds⟩ := ih hholds₂ hchain.tail fun t' ht' hnumber => by
      -- A number comes after some other token, which the reader has left behind.
      refine hmode₂ (Bool.eq_false_iff.mpr fun ht => ?_)
      cases ts with
      | nil => cases ht'
      | cons t'' ts =>
        obtain rfl := Option.some.inj ht'
        rw [List.isChain_cons_cons] at hchain
        rw [hchain.1 ht] at hnumber
        cases hnumber
    refine ⟨l', ?_, ?_⟩
    · have hblank : (utf8 blank).foldlM Lexer.push? l = some l₁ := hread₁
      rw [List.foldlM_append, hblank]
      change (w ++ rest).foldlM Lexer.push? l₁ = _
      rw [List.foldlM_append, hread₂]
      exact hread
    · rwa [List.reverse_cons, List.append_assoc]

end Lexer

lemma isChain_append_cons {t : Token} {ts ts' : List Token} (ht : t.isNumber = false)
    (h : ts.IsChain Token.Parts) (h' : ts'.IsChain Token.Parts) :
    (ts ++ t :: ts').IsChain Token.Parts := by
  have hcons : (t :: ts').IsChain Token.Parts := by
    cases ts' with
    | nil => exact List.isChain_singleton _
    | cons t' ts' =>
      refine List.isChain_cons_cons.mpr ⟨fun hnumber => ?_, h'⟩
      rw [ht] at hnumber
      cases hnumber
  refine h.append hcons fun x _ y hy _ => ?_
  obtain rfl := Option.some.inj hy
  exact ht

lemma isChain_intercalate {parts : List (List Token)}
    (h : ∀ part ∈ parts, part.IsChain Token.Parts) :
    ([Token.comma].intercalate parts).IsChain Token.Parts := by
  induction parts with
  | nil => exact List.isChain_nil
  | cons part rest ih =>
    cases rest with
    | nil => simpa [List.intercalate] using h
    | cons next rest =>
      rw [List.intercalate_cons_cons, List.append_assoc]
      exact isChain_append_cons rfl (h part (List.mem_cons_self ..))
        (ih fun part' hpart => h part' (List.mem_cons_of_mem _ hpart))

/-- No number follows another one among the tokens of a value. -/
lemma isChain_rawTokens (v : Raw) : (rawTokens v).IsChain Token.Parts := by
  induction v using Value.parts_induction with
  | null => exact List.isChain_singleton _
  | bool => exact List.isChain_singleton _
  | number => exact List.isChain_singleton _
  | string => exact List.isChain_singleton _
  | array items ih =>
    have hitems : ∀ part ∈ rawItemTokens items, part.IsChain Token.Parts := by
      rw [rawItemTokens_eq_map]
      intro part hpart
      obtain ⟨v, hv, rfl⟩ := List.mem_map.mp hpart
      exact ih v hv
    exact isChain_append_cons rfl List.isChain_nil
      (isChain_append_cons rfl (isChain_intercalate hitems) List.isChain_nil)
  | object members ih =>
    have hmembers : ∀ part ∈ rawMemberTokens members, part.IsChain Token.Parts := by
      rw [rawMemberTokens_eq_map]
      intro part hpart
      obtain ⟨m, hm, rfl⟩ := List.mem_map.mp hpart
      exact isChain_append_cons rfl List.isChain_nil
        (isChain_append_cons rfl List.isChain_nil (ih m hm))
    exact isChain_append_cons rfl List.isChain_nil
      (isChain_append_cons rfl (isChain_intercalate hmembers) List.isChain_nil)

/-- Tokens are read where they are written, unless a number follows another one. -/
lemma tokens?_written {ts : List Token} {bs : List UInt8} (h : RawWritten ts bs)
    (hchain : ts.IsChain Token.Parts) : tokens? bs = some ts := by
  obtain ⟨l, hread, hholds⟩ := (Lexer.Holds.between []).foldlM_written h hchain fun _ _ _ => rfl
  have hfold : bs.foldlM Lexer.push? Lexer.start = some l := hread
  rw [tokens?, hfold, Option.bind_some, hholds.finish?, List.append_nil, List.reverse_reverse]

end Json
end LeaseKeeper
