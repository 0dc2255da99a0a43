/-
# How JSON is written

A token has its spellings: a character of a string stands for itself or is written as one of three
kinds of escapes, and a number is written with digits.  A document is written as the tokens of its
value in order, with any white space around each of them.  What the printer writes is a document
without any.
-/
import LeaseKeeper.Json.Token
import LeaseKeeper.Json.Value
import LeaseKeeper.Text.Digits
import Mathlib.Data.List.Basic
import Mathlib.Data.List.Forall2

namespace LeaseKeeper
namespace Json

/-! ### Strings -/

/-- The letters of the short escapes, each with the character that it stands for. -/
def shortEscapes : List (Char × Char) :=
  [('"', '"'), ('\\', '\\'), ('/', '/'), ('b', Char.ofNat 8), ('f', Char.ofNat 12), ('n', '\n'),
    ('r', '\r'), ('t', '\t')]

/-- Four digits in base sixteen, and the unit that they are worth. -/
def IsUnit (digits : List Char) (n : ℕ) : Prop :=
  digits.length = 4 ∧ Text.hexDigits? digits = some n

/-- How a character may be written inside a string: as itself, unless it is a control, a quotation
mark or a backslash, as a short escape, as one unit, or as the two units of a pair. -/
inductive Spells (c : Char) : List Char → Prop
  | plain (hc : 0x20 ≤ c.toNat) (hquote : c ≠ '"') (hslash : c ≠ '\\') : Spells c [c]
  | short {letter : Char} (h : (letter, c) ∈ shortEscapes) : Spells c ['\\', letter]
  | unit {digits : List Char} (h : IsUnit digits c.toNat) : Spells c ('\\' :: 'u' :: digits)
  | pair {first second : List Char} {high low : ℕ} (hfirst : IsUnit first high)
      (hsecond : IsUnit second low) (hhigh : 0xd800 ≤ high ∧ high ≤ 0xdbff)
      (hlow : 0xdc00 ≤ low ∧ low ≤ 0xdfff)
      (hc : c.toNat = 0x10000 + (high - 0xd800) * 0x400 + (low - 0xdc00)) :
      Spells c ('\\' :: 'u' :: (first ++ '\\' :: 'u' :: second))

/-- How characters may be written inside a string. -/
inductive SpellsAll : List Char → List Char → Prop
  | nil : SpellsAll [] []
  | cons {c : Char} {cs w ws : List Char} (h : Spells c w) (hs : SpellsAll cs ws) :
      SpellsAll (c :: cs) (w ++ ws)

/-! ### Numbers -/

def IsDigits (l : List Char) : Prop := l ≠ [] ∧ ∀ c ∈ l, c.isDigit = true

/-- The whole part of a number: digits without a zero in front. -/
def IsWhole (l : List Char) : Prop := IsDigits l ∧ (l.head? = some '0' → l = ['0'])

/-- The fraction of a number with its point, or nothing. -/
def IsFraction (l : List Char) : Prop := l = [] ∨ ∃ digits, l = '.' :: digits ∧ IsDigits digits

/-- The exponent of a number with its mark and perhaps a sign, or nothing. -/
def IsExponent (l : List Char) : Prop :=
  l = [] ∨ ∃ mark sign digits, l = mark :: (sign ++ digits) ∧ (mark = 'e' ∨ mark = 'E') ∧
    (sign = [] ∨ sign = ['+'] ∨ sign = ['-']) ∧ IsDigits digits

/-- How numbers are written: a whole part, perhaps with a sign before it and a fraction and an
exponent after it. -/
inductive IsNumber : List Char → Prop
  | intro {sign whole fraction exponent : List Char} (hsign : sign = [] ∨ sign = ['-'])
      (hwhole : IsWhole whole) (hfraction : IsFraction fraction)
      (hexponent : IsExponent exponent) : IsNumber (sign ++ (whole ++ (fraction ++ exponent)))

/-! ### Tokens -/

/-- How a token may be written. -/
inductive Lexeme : Token → List Char → Prop
  | openObject : Lexeme .openObject [Char.ofNat 0x7b]
  | closeObject : Lexeme .closeObject [Char.ofNat 0x7d]
  | openArray : Lexeme .openArray ['[']
  | closeArray : Lexeme .closeArray [']']
  | comma : Lexeme .comma [',']
  | colon : Lexeme .colon [':']
  | null : Lexeme .null ['n', 'u', 'l', 'l']
  | true : Lexeme (.bool true) ['t', 'r', 'u', 'e']
  | false : Lexeme (.bool false) ['f', 'a', 'l', 's', 'e']
  | number {l : List Char} (h : IsNumber l) : Lexeme (.number (String.ofList l)) l
  | string {s : String} {l : List Char} (h : SpellsAll s.toList l) :
      Lexeme (.string (some s)) ('"' :: (l ++ ['"']))

def IsBlank (l : List Char) : Prop := ∀ c ∈ l, c = ' ' ∨ c = '\n' ∨ c = '\r' ∨ c = '\t'

lemma isBlank_nil : IsBlank [] := List.forall_mem_nil _

/-- How tokens may be written in order, with any white space before, between and after them. -/
inductive Written : List Token → List Char → Prop
  | done {blank : List Char} (hb : IsBlank blank) : Written [] blank
  | cons {t : Token} {ts : List Token} {blank l rest : List Char} (hb : IsBlank blank)
      (h : Lexeme t l) (hrest : Written ts rest) : Written (t :: ts) (blank ++ (l ++ rest))

lemma Written.nil : Written [] [] := .done isBlank_nil

/-- How tokens may be written in order without any white space. -/
def Compact (ts : List Token) (l : List Char) : Prop :=
  ∃ words, List.Forall₂ Lexeme ts words ∧ l = words.flatten

lemma Compact.nil : Compact [] [] := ⟨[], .nil, rfl⟩

lemma Lexeme.compact {t : Token} {l : List Char} (h : Lexeme t l) : Compact [t] l :=
  ⟨[l], .cons h .nil, by simp⟩

lemma Compact.append {ts ts' : List Token} {l l' : List Char} (h : Compact ts l)
    (h' : Compact ts' l') : Compact (ts ++ ts') (l ++ l') := by
  obtain ⟨words, hwords, rfl⟩ := h
  obtain ⟨words', hwords', rfl⟩ := h'
  exact ⟨words ++ words', List.rel_append hwords hwords', List.flatten_append.symm⟩

lemma Compact.written {ts : List Token} {l : List Char} (h : Compact ts l) : Written ts l := by
  obtain ⟨words, hwords, rfl⟩ := h
  induction hwords with
  | nil => exact .nil
  | cons hl _ ih =>
    have hcons : Written _ ([] ++ (_ ++ _)) := .cons isBlank_nil hl ih
    exact hcons

/-- The numbers among written tokens are numbers. -/
lemma Written.isNumber {ts : List Token} {l : List Char} (h : Written ts l) {literal : String}
    (hmem : Token.number literal ∈ ts) : IsNumber literal.toList := by
  induction h with
  | done => simp at hmem
  | cons _ hl _ ih =>
    rcases List.mem_cons.mp hmem with rfl | hmem
    · cases hl with
      | number hnumber => rwa [String.toList_ofList]
    · exact ih hmem

/-! ### Documents -/

mutual

/-- The tokens of a value. -/
def Value.tokens : Value String → List Token
  | .null => [.null]
  | .bool b => [.bool b]
  | .number literal => [.number literal]
  | .string s => [.string (some s)]
  | .array items => .openArray :: ([Token.comma].intercalate (itemTokens items) ++ [.closeArray])
  | .object members =>
    .openObject :: ([Token.comma].intercalate (memberTokens members) ++ [.closeObject])

def itemTokens : List (Value String) → List (List Token)
  | [] => []
  | v :: rest => v.tokens :: itemTokens rest

def memberTokens : List (String × Value String) → List (List Token)
  | [] => []
  | (name, v) :: rest => (.string (some name) :: .colon :: v.tokens) :: memberTokens rest

end

lemma itemTokens_eq_map (items : List (Value String)) :
    itemTokens items = items.map Value.tokens := by
  induction items with
  | nil => rfl
  | cons v rest ih => rw [itemTokens, ih, List.map_cons]

lemma memberTokens_eq_map (members : List (String × Value String)) :
    memberTokens members =
      members.map fun m => Token.string (some m.1) :: Token.colon :: m.2.tokens := by
  induction members with
  | nil => rfl
  | cons m rest ih => rw [memberTokens, ih, List.map_cons]

lemma mem_intercalate {α : Type} (sep : List α) {part : List α} {parts : List (List α)} {a : α}
    (hpart : part ∈ parts) (ha : a ∈ part) : a ∈ sep.intercalate parts := by
  induction parts with
  | nil => simp at hpart
  | cons first rest ih =>
    cases rest with
    | nil =>
      obtain rfl := List.mem_singleton.mp hpart
      simpa [List.intercalate] using ha
    | cons second rest =>
      rw [List.intercalate_cons_cons]
      rcases List.mem_cons.mp hpart with rfl | hpart
      · simp [ha]
      · exact List.mem_append_right _ (ih hpart)

lemma of_mem_intercalate {α : Type} {sep : List α} {parts : List (List α)} {a : α}
    (h : a ∈ sep.intercalate parts) : a ∈ sep ∨ ∃ part ∈ parts, a ∈ part := by
  induction parts with
  | nil => simp [List.intercalate] at h
  | cons first rest ih =>
    cases rest with
    | nil => exact Or.inr ⟨first, by simp, by simpa [List.intercalate] using h⟩
    | cons second rest =>
      rw [List.intercalate_cons_cons] at h
      rcases List.mem_append.mp h with h | h
      · rcases List.mem_append.mp h with h | h
        · exact Or.inr ⟨first, by simp, h⟩
        · exact Or.inl h
      · refine (ih h).imp id fun ⟨part, hpart, ha⟩ => ⟨part, List.mem_cons_of_mem _ hpart, ha⟩

lemma mem_tokens_array {v : Value String} {items : List (Value String)} {t : Token}
    (hv : v ∈ items) (ht : t ∈ v.tokens) : t ∈ (Value.array items).tokens := by
  have hmem := mem_intercalate [Token.comma] (List.mem_map_of_mem (f := Value.tokens) hv) ht
  rw [Value.tokens, itemTokens_eq_map]
  exact List.mem_cons_of_mem _ (List.mem_append_left _ hmem)

lemma mem_tokens_object {m : String × Value String} {members : List (String × Value String)}
    {t : Token} (hm : m ∈ members) (ht : t ∈ m.2.tokens) : t ∈ (Value.object members).tokens := by
  have hmem := mem_intercalate [Token.comma]
    (List.mem_map_of_mem (f := fun m => Token.string (some m.1) :: Token.colon :: m.2.tokens) hm)
    (List.mem_cons_of_mem _ (List.mem_cons_of_mem _ ht))
  rw [Value.tokens, memberTokens_eq_map]
  exact List.mem_cons_of_mem _ (List.mem_append_left _ hmem)

lemma of_mem_tokens_array {items : List (Value String)} {literal : String}
    (h : Token.number literal ∈ (Value.array items).tokens) :
    ∃ v ∈ items, Token.number literal ∈ v.tokens := by
  rw [Value.tokens, itemTokens_eq_map] at h
  simp only [List.mem_cons, List.mem_append, List.not_mem_nil, or_false, reduceCtorEq,
    false_or] at h
  rcases of_mem_intercalate h with hcomma | ⟨part, hpart, hmem⟩
  · simp at hcomma
  · obtain ⟨v, hv, rfl⟩ := List.mem_map.mp hpart
    exact ⟨v, hv, hmem⟩

lemma of_mem_tokens_object {members : List (String × Value String)} {literal : String}
    (h : Token.number literal ∈ (Value.object members).tokens) :
    ∃ m ∈ members, Token.number literal ∈ m.2.tokens := by
  rw [Value.tokens, memberTokens_eq_map] at h
  simp only [List.mem_cons, List.mem_append, List.not_mem_nil, or_false, reduceCtorEq,
    false_or] at h
  rcases of_mem_intercalate h with hcomma | ⟨part, hpart, hmem⟩
  · simp at hcomma
  · obtain ⟨m, hm, rfl⟩ := List.mem_map.mp hpart
    exact ⟨m, hm, by simpa using hmem⟩

/-- A text is a document of a value. -/
def Document (v : Value String) (text : String) : Prop := Written v.tokens text.toList

/-- What holds of values without parts, of a list if it holds of its items, and of an object if it
holds of the values of its members, holds of all values. -/
@[elab_as_elim]
theorem Value.parts_induction {τ : Type} {P : Value τ → Prop} (null : P .null)
    (bool : ∀ b, P (.bool b)) (number : ∀ literal, P (.number literal))
    (string : ∀ s, P (.string s)) (array : ∀ items, (∀ v ∈ items, P v) → P (.array items))
    (object : ∀ members : List (τ × Value τ), (∀ m ∈ members, P m.2) → P (.object members))
    (v : Value τ) : P v := by
  -- Lists of items and of members recurse with the values, each with a motive of its own.
  refine @Value.rec τ P (fun items => ∀ v ∈ items, P v) (fun members => ∀ m ∈ members, P m.2)
    (fun m => P m.2) null bool number string array object ?_ ?_ ?_ ?_ ?_ v
  · exact fun v hv => absurd hv List.not_mem_nil
  · intro v items hv hitems w hw
    rcases List.mem_cons.mp hw with rfl | hw
    · exact hv
    · exact hitems w hw
  · exact fun m hm => absurd hm List.not_mem_nil
  · intro m members hm hmembers n hn
    rcases List.mem_cons.mp hn with rfl | hn
    · exact hm
    · exact hmembers n hn
  · exact fun _ _ hv => hv

/-! ### The printer -/

lemma spells_escaped (c : Char) : Spells c (escaped c) := by
  -- Only controls are written as units, and there are few of them.
  have hunit : ∀ n < 0x20, IsUnit ['0', '0', hexDigit (n / 16), hexDigit (n % 16)] n := by
    unfold IsUnit
    decide
  have hchar : ∀ n, c.toNat = n → c = Char.ofNat n := by
    rintro n rfl
    exact (Char.ofNat_toNat c).symm
  unfold escaped
  split_ifs with hquote hslash hplain hn hr ht hb hf
  · obtain rfl := eq_of_beq hquote
    exact .short (by simp [shortEscapes])
  · obtain rfl := eq_of_beq hslash
    exact .short (by simp [shortEscapes])
  · exact .plain hplain (by simpa using hquote) (by simpa using hslash)
  · obtain rfl := eq_of_beq hn
    exact .short (by simp [shortEscapes])
  · obtain rfl := eq_of_beq hr
    exact .short (by simp [shortEscapes])
  · obtain rfl := eq_of_beq ht
    exact .short (by simp [shortEscapes])
  · rw [hchar 8 (eq_of_beq hb)]
    exact .short (by simp [shortEscapes])
  · rw [hchar 12 (eq_of_beq hf)]
    exact .short (by simp [shortEscapes])
  · exact .unit (hunit c.toNat (Nat.lt_of_not_le hplain))

lemma lexeme_quoted (s : String) : Lexeme (.string (some s)) (quoted s) := by
  have hall : ∀ cs, SpellsAll cs (cs.flatMap escaped) := by
    intro cs
    induction cs with
    | nil => exact .nil
    | cons c cs ih => exact .cons (spells_escaped c) ih
  exact .string (hall s.toList)

lemma compact_separated {parts : List (List Token)} {texts : List (List Char)}
    (h : List.Forall₂ Compact parts texts) :
    Compact ([Token.comma].intercalate parts) (separated texts) := by
  induction h with
  | nil => exact .nil
  | @cons ts text parts texts hpart hrest ih =>
    cases hrest with
    | nil => simpa [List.intercalate, separated] using hpart
    | cons =>
      have hcomma := hpart.append (Lexeme.comma.compact.append ih)
      simpa [List.intercalate, separated] using hcomma

lemma printItems_eq_map (items : List (Value String)) :
    printItems items = items.map Value.print := by
  induction items with
  | nil => rfl
  | cons v rest ih => rw [printItems, ih, List.map_cons]

lemma printMembers_eq_map (members : List (String × Value String)) :
    printMembers members = members.map fun m => quoted m.1 ++ ':' :: m.2.print := by
  induction members with
  | nil => rfl
  | cons m rest ih => rw [printMembers, ih, List.map_cons]

/-- The printer writes the tokens of a value without white space, if the numbers of the value are
numbers. -/
theorem compact_print (v : Value String)
    (hv : ∀ literal, .number literal ∈ v.tokens → IsNumber literal.toList) :
    Compact v.tokens v.print := by
  induction v using Value.parts_induction with
  | null => exact Lexeme.null.compact
  | bool b =>
    cases b with
    | true => exact Lexeme.true.compact
    | false => exact Lexeme.false.compact
  | number literal =>
    have hnumber := Lexeme.number (hv literal (by simp [Value.tokens]))
    rw [String.ofList_toList] at hnumber
    exact hnumber.compact
  | string s => exact (lexeme_quoted s).compact
  | array items ih =>
    have hitems : List.Forall₂ Compact (itemTokens items) (printItems items) := by
      rw [itemTokens_eq_map, printItems_eq_map, List.forall₂_map_left_iff,
        List.forall₂_map_right_iff, List.forall₂_same]
      exact fun v hmem => ih v hmem fun literal ht => hv literal (mem_tokens_array hmem ht)
    exact Lexeme.openArray.compact.append
      ((compact_separated hitems).append Lexeme.closeArray.compact)
  | object members ih =>
    have hmembers : List.Forall₂ Compact (memberTokens members) (printMembers members) := by
      rw [memberTokens_eq_map, printMembers_eq_map, List.forall₂_map_left_iff,
        List.forall₂_map_right_iff, List.forall₂_same]
      intro m hmem
      have hvalue := ih m hmem fun literal ht => hv literal (mem_tokens_object hmem ht)
      exact (lexeme_quoted m.1).compact.append (Lexeme.colon.compact.append hvalue)
    exact Lexeme.openObject.compact.append
      ((compact_separated hmembers).append Lexeme.closeObject.compact)

end Json
end LeaseKeeper
