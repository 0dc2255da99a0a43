/-
# What the printer writes

If the numbers of a value are numbers as they are written, the printer writes a document of the
value.  There is no control in it, whatever is in the strings and names of the value: a document
that is printed stands on one line.
-/
import LeaseKeeper.Proofs.Json.Lexing
import LeaseKeeper.Proofs.Json.Numeral

namespace LeaseKeeper
namespace Json

/-! ### Values with numbers -/

/-- The numbers of a value are numbers as they are written. -/
def HasNumbers (v : Value String) : Prop :=
  ∀ literal, Token.number literal ∈ v.tokens → IsNumber literal.toList

variable {v : Value String}

lemma HasNumbers.of_mem {items : List (Value String)} (h : HasNumbers (.array items))
    (hv : v ∈ items) : HasNumbers v :=
  fun literal hliteral => h literal (mem_tokens_array hv hliteral)

lemma HasNumbers.of_member {members : List (String × Value String)} {m : String × Value String}
    (h : HasNumbers (.object members)) (hm : m ∈ members) : HasNumbers m.2 :=
  fun literal hliteral => h literal (mem_tokens_object hm hliteral)

lemma HasNumbers.null : HasNumbers .null := by
  simp [HasNumbers, Value.tokens]

lemma HasNumbers.bool (b : Bool) : HasNumbers (.bool b) := by
  simp [HasNumbers, Value.tokens]

lemma HasNumbers.string (s : String) : HasNumbers (.string s) := by
  simp [HasNumbers, Value.tokens]

lemma hasNumbers_number {literal : String} :
    HasNumbers (.number literal) ↔ IsNumber literal.toList := by
  simp [HasNumbers, Value.tokens]

lemma HasNumbers.ofNat (n : ℕ) : HasNumbers (.ofNat n) := by
  rw [Value.ofNat, hasNumbers_number, Nat.toList_repr]
  exact (isWhole_toDigits n).isMagnitude.signed (Or.inl rfl)

lemma HasNumbers.ofInt (i : ℤ) : HasNumbers (.ofInt i) :=
  hasNumbers_number.mpr (isNumber_toString i)

lemma HasNumbers.array {items : List (Value String)} (h : ∀ v ∈ items, HasNumbers v) :
    HasNumbers (.array items) := by
  intro literal hliteral
  obtain ⟨v, hv, hmem⟩ := of_mem_tokens_array hliteral
  exact h v hv literal hmem

lemma HasNumbers.object {members : List (String × Value String)}
    (h : ∀ m ∈ members, HasNumbers m.2) : HasNumbers (.object members) := by
  intro literal hliteral
  obtain ⟨m, hm, hmem⟩ := of_mem_tokens_object hliteral
  exact h m hm literal hmem

/-- What is printed is a document of the value. -/
theorem HasNumbers.document (h : HasNumbers v) : Document v v.text := by
  rw [Document, Value.text, String.toList_ofList]
  exact (compact_print v h).written

/-! ### No controls -/

/-- Characters among which there is no control. -/
def NoControl (l : List Char) : Prop := ∀ c ∈ l, 0x20 ≤ c.toNat

instance (l : List Char) : Decidable (NoControl l) := List.decidableBAll _ l

lemma NoControl.append {l l' : List Char} (h : NoControl l) (h' : NoControl l') :
    NoControl (l ++ l') := List.forall_mem_append.mpr ⟨h, h'⟩

lemma NoControl.cons {c : Char} {l : List Char} (hc : 0x20 ≤ c.toNat) (h : NoControl l) :
    NoControl (c :: l) := List.forall_mem_cons.mpr ⟨hc, h⟩

/-- The bytes of characters among which there is no control are no controls. -/
lemma NoControl.bytes {s : String} (h : NoControl s.toList) :
    ∀ b ∈ Text.bytes s, 0x20 ≤ b.toNat := by
  intro b hb
  obtain ⟨c, hc, hb⟩ := List.mem_flatMap.mp hb
  have hle : 0x20 ≤ c.toNat := h c hc
  by_cases hascii : c.toNat < 0x80
  · rw [utf8EncodeChar_of_lt hascii] at hb
    rw [List.mem_singleton.mp hb, Text.toNat_ofNat_of_lt (by omega)]
    exact hle
  · exact (by decide : 0x20 ≤ 0x80).trans (le_of_mem_utf8EncodeChar (Nat.le_of_not_lt hascii) hb)

lemma IsDigits.noControl {l : List Char} (h : IsDigits l) : NoControl l := by
  intro c hc
  have hdigit : 48 ≤ c.toNat ∧ c.toNat ≤ 57 := by
    simpa [Char.isDigit, UInt32.le_iff_toNat_le] using h.2 c hc
  omega

lemma IsNumber.noControl {l : List Char} (h : IsNumber l) : NoControl l := by
  obtain @⟨sign, whole, fraction, exponent, hsign, hwhole, hfraction, hexponent⟩ := h
  have hnil : NoControl [] := List.forall_mem_nil _
  have hsign : NoControl sign := by
    rcases hsign with rfl | rfl
    · exact hnil
    · exact hnil.cons (by decide)
  have hfraction : NoControl fraction := by
    rcases hfraction with rfl | ⟨digits, rfl, hdigits⟩
    · exact hnil
    · exact hdigits.noControl.cons (by decide)
  have hexponent : NoControl exponent := by
    rcases hexponent with rfl | ⟨mark, sign, digits, rfl, hmark, hsign, hdigits⟩
    · exact hnil
    · have hmark : 0x20 ≤ mark.toNat := by rcases hmark with rfl | rfl <;> decide
      have hsign : NoControl sign := by
        rcases hsign with rfl | rfl | rfl
        · exact hnil
        · exact hnil.cons (by decide)
        · exact hnil.cons (by decide)
      exact (hsign.append hdigits.noControl).cons hmark
  exact hsign.append (hwhole.1.noControl.append (hfraction.append hexponent))

lemma noControl_escaped (c : Char) : NoControl (escaped c) := by
  -- Only controls are written as units, and there are few of them.
  have hunit : ∀ n < 0x20, 0x20 ≤ (hexDigit (n / 16)).toNat ∧ 0x20 ≤ (hexDigit (n % 16)).toNat := by
    decide
  unfold escaped
  split_ifs with hquote hslash hplain hn hr ht hb hf
  · decide
  · decide
  · exact List.forall_mem_singleton.mpr hplain
  · decide
  · decide
  · decide
  · decide
  · decide
  · have hdigits := hunit c.toNat (Nat.lt_of_not_le hplain)
    simpa [NoControl] using hdigits

lemma noControl_quoted (s : String) : NoControl (quoted s) := by
  have hinner : NoControl (s.toList.flatMap escaped) := by
    intro x hx
    obtain ⟨c, -, hx⟩ := List.mem_flatMap.mp hx
    exact noControl_escaped c x hx
  exact (hinner.append (by decide)).cons (by decide)

lemma noControl_separated {parts : List (List Char)} (h : ∀ part ∈ parts, NoControl part) :
    NoControl (separated parts) := by
  induction parts with
  | nil => exact List.forall_mem_nil _
  | cons first rest ih =>
    obtain ⟨hfirst, hrest⟩ := List.forall_mem_cons.mp h
    cases rest with
    | nil => exact hfirst
    | cons second rest => exact hfirst.append ((ih hrest).cons (by decide))

/-- There is no control in what is printed. -/
theorem HasNumbers.noControl (h : HasNumbers v) : NoControl v.print := by
  induction v using Value.parts_induction with
  | null => decide
  | bool b =>
    cases b with
    | true => decide
    | false => decide
  | number literal => exact (hasNumbers_number.mp h).noControl
  | string s => exact noControl_quoted s
  | array items ih =>
    have hitems : ∀ part ∈ printItems items, NoControl part := by
      rw [printItems_eq_map, List.forall_mem_map]
      exact fun v hv => ih v hv (h.of_mem hv)
    exact ((noControl_separated hitems).append (by decide)).cons (by decide)
  | object members ih =>
    have hmembers : ∀ part ∈ printMembers members, NoControl part := by
      rw [printMembers_eq_map, List.forall_mem_map]
      intro m hm
      exact (noControl_quoted m.1).append ((ih m hm (h.of_member hm)).cons (by decide))
    exact ((noControl_separated hmembers).append (by decide)).cons (by decide)

end Json
end LeaseKeeper
