/-
# Documents as bytes

A document comes as bytes.  Outside its strings these are characters, but a string that nobody asks
for may hold any bytes and any units, and then it need not denote a text.  A document whose strings
all denote texts is one of these documents.
-/
import LeaseKeeper.Json.Document
import LeaseKeeper.Proofs.Json.Grammar

namespace LeaseKeeper
namespace Json

/-- Characters as bytes. -/
def utf8 (cs : List Char) : List UInt8 := cs.flatMap String.utf8EncodeChar

@[simp] lemma utf8_nil : utf8 [] = [] := rfl

@[simp] lemma utf8_append (cs cs' : List Char) : utf8 (cs ++ cs') = utf8 cs ++ utf8 cs' :=
  List.flatMap_append

lemma utf8_cons (c : Char) (cs : List Char) :
    utf8 (c :: cs) = String.utf8EncodeChar c ++ utf8 cs := List.flatMap_cons

/-! ### Strings that need not denote a text -/

/-- A piece of a string: any byte that is no control, quotation mark or backslash, a short escape,
or a unit. -/
inductive Piece : List UInt8 → Prop
  | byte {b : UInt8} (hb : 0x20 ≤ b.toNat) (hquote : b ≠ 0x22) (hslash : b ≠ 0x5c) : Piece [b]
  | short {letter c : Char} (h : (letter, c) ∈ shortEscapes) : Piece (utf8 ['\\', letter])
  | unit {digits : List Char} {n : ℕ} (h : IsUnit digits n) :
      Piece (utf8 ('\\' :: 'u' :: digits))

inductive Pieces : List UInt8 → Prop
  | nil : Pieces []
  | cons {p w : List UInt8} (h : Piece p) (hs : Pieces w) : Pieces (p ++ w)

lemma Piece.pieces {p : List UInt8} (h : Piece p) : Pieces p := by
  have hone : Pieces (p ++ []) := .cons h .nil
  rwa [List.append_nil] at hone

lemma Pieces.append {w w' : List UInt8} (h : Pieces w) (h' : Pieces w') : Pieces (w ++ w') := by
  induction h with
  | nil => exact h'
  | cons hp _ ih =>
    rw [List.append_assoc]
    exact .cons hp ih

/-! ### Tokens -/

/-- How a token may be written as bytes.  A string that is the spelling of no text is a token as
well. -/
inductive RawLexeme : Token → List UInt8 → Prop
  | text {t : Token} {l : List Char} (h : Lexeme t l) : RawLexeme t (utf8 l)
  | formless {w : List UInt8} (h : Pieces w) (hno : ∀ cs l, SpellsAll cs l → w ≠ utf8 l) :
      RawLexeme (.string none) (0x22 :: (w ++ [0x22]))

/-- How tokens may be written as bytes in order, with any white space before, between and after
them. -/
inductive RawWritten : List Token → List UInt8 → Prop
  | done {blank : List Char} (hb : IsBlank blank) : RawWritten [] (utf8 blank)
  | cons {t : Token} {ts : List Token} {blank : List Char} {w rest : List UInt8}
      (hb : IsBlank blank) (h : RawLexeme t w) (hrest : RawWritten ts rest) :
      RawWritten (t :: ts) (utf8 blank ++ (w ++ rest))

lemma RawWritten.nil : RawWritten [] (utf8 []) := .done isBlank_nil

lemma RawLexeme.written {t : Token} {w : List UInt8} (h : RawLexeme t w) : RawWritten [t] w := by
  have hone : RawWritten [t] (utf8 [] ++ (w ++ [])) := .cons isBlank_nil h .nil
  simpa using hone

lemma RawWritten.blank {ts : List Token} {blank : List Char} {w : List UInt8} (hb : IsBlank blank)
    (h : RawWritten ts w) : RawWritten ts (utf8 blank ++ w) := by
  have happend : ∀ blank', IsBlank blank' → IsBlank (blank ++ blank') := by
    intro blank' hb' c hc
    rcases List.mem_append.mp hc with hc | hc
    · exact hb c hc
    · exact hb' c hc
  cases h with
  | done hb' =>
    rw [← utf8_append]
    exact .done (happend _ hb')
  | cons hb' hw hrest =>
    rw [← List.append_assoc, ← utf8_append]
    exact .cons (happend _ hb') hw hrest

lemma RawWritten.append {ts ts' : List Token} {w w' : List UInt8} (h : RawWritten ts w)
    (h' : RawWritten ts' w') : RawWritten (ts ++ ts') (w ++ w') := by
  induction h with
  | done hb => exact h'.blank hb
  | cons hb hw _ ih =>
    rw [List.append_assoc, List.append_assoc, List.cons_append]
    exact .cons hb hw ih

lemma Written.raw {ts : List Token} {l : List Char} (h : Written ts l) :
    RawWritten ts (utf8 l) := by
  induction h with
  | done hb => exact .done hb
  | cons hb hl _ ih =>
    rw [utf8_append, utf8_append]
    exact .cons hb (.text hl) ih

/-! ### Values -/

mutual

/-- The tokens of a value whose strings need not denote texts. -/
def rawTokens : Raw → List Token
  | .null => [.null]
  | .bool b => [.bool b]
  | .number literal => [.number literal]
  | .string s => [.string s]
  | .array items =>
    .openArray :: ([Token.comma].intercalate (rawItemTokens items) ++ [.closeArray])
  | .object members =>
    .openObject :: ([Token.comma].intercalate (rawMemberTokens members) ++ [.closeObject])

def rawItemTokens : List Raw → List (List Token)
  | [] => []
  | v :: rest => rawTokens v :: rawItemTokens rest

def rawMemberTokens : List (Option String × Raw) → List (List Token)
  | [] => []
  | (name, v) :: rest => (.string name :: .colon :: rawTokens v) :: rawMemberTokens rest

end

/-- The tokens of a member. -/
def memberOf (m : Option String × Raw) : List Token := .string m.1 :: .colon :: rawTokens m.2

lemma rawItemTokens_eq_map (items : List Raw) : rawItemTokens items = items.map rawTokens := by
  induction items with
  | nil => rfl
  | cons v rest ih => rw [rawItemTokens, ih, List.map_cons]

lemma rawMemberTokens_eq_map (members : List (Option String × Raw)) :
    rawMemberTokens members = members.map memberOf := by
  induction members with
  | nil => rfl
  | cons m rest ih => rw [rawMemberTokens, ih, List.map_cons, memberOf]

mutual

/-- A value as it is read, all of whose strings denote texts. -/
def Value.raw : Value String → Raw
  | .null => .null
  | .bool b => .bool b
  | .number literal => .number literal
  | .string s => .string (some s)
  | .array items => .array (rawItems items)
  | .object members => .object (rawMembers members)

def rawItems : List (Value String) → List Raw
  | [] => []
  | v :: rest => v.raw :: rawItems rest

def rawMembers : List (String × Value String) → List (Option String × Raw)
  | [] => []
  | (name, v) :: rest => (some name, v.raw) :: rawMembers rest

end

lemma rawItems_eq_map (items : List (Value String)) : rawItems items = items.map Value.raw := by
  induction items with
  | nil => rfl
  | cons v rest ih => rw [rawItems, ih, List.map_cons]

/-- A member as it is read. -/
def rawMember (m : String × Value String) : Option String × Raw := (some m.1, m.2.raw)

lemma rawMembers_eq_map (members : List (String × Value String)) :
    rawMembers members = members.map rawMember := by
  induction members with
  | nil => rfl
  | cons m rest ih => rw [rawMembers, ih, List.map_cons, rawMember]

/-- A value has the same tokens as it is read. -/
lemma rawTokens_raw (v : Value String) : rawTokens v.raw = v.tokens := by
  induction v using Value.parts_induction with
  | null => rfl
  | bool => rfl
  | number => rfl
  | string => rfl
  | array items ih =>
    have hitems : (items.map Value.raw).map rawTokens = items.map Value.tokens := by
      rw [List.map_map]
      exact List.map_congr_left ih
    rw [Value.raw, rawTokens, Value.tokens, rawItemTokens_eq_map, rawItems_eq_map, hitems,
      itemTokens_eq_map]
  | object members ih =>
    have hmembers : (members.map rawMember).map memberOf =
        members.map fun m => Token.string (some m.1) :: Token.colon :: m.2.tokens := by
      rw [List.map_map]
      refine List.map_congr_left fun m hm => ?_
      simp only [Function.comp, memberOf, rawMember, ih m hm]
    rw [Value.raw, rawTokens, Value.tokens, rawMemberTokens_eq_map, rawMembers_eq_map, hmembers,
      memberTokens_eq_map]

/-- Bytes are a document of a value. -/
def RawDocument (v : Raw) (bs : List UInt8) : Prop := RawWritten (rawTokens v) bs

lemma Document.raw {v : Value String} {text : String} (h : Document v text) :
    RawDocument v.raw (Text.bytes text) := by
  rw [RawDocument, rawTokens_raw]
  exact Written.raw h

end Json
end LeaseKeeper
