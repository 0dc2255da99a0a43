/-
# Texts as bytes

Every text has one form as bytes; a sequence of bytes need not be the form of any text.  Reading
goes byte by byte: a lead byte says how many bytes follow it and, in four cases, narrows the range
of the next one.  `Text.ofBytes?` accepts well-formed sequences only.  `Text.ofBytesLossy` reads any
sequence: the longest beginning of a character that is cut short or goes wrong becomes one
replacement character, and reading goes on at the byte that did not fit.
-/

namespace LeaseKeeper
namespace Text

/-- The bytes of a text. -/
def bytes (s : String) : List UInt8 := s.toList.flatMap String.utf8EncodeChar

/-- A character that has begun: its bits so far, the number of bytes still owed, and the range in
which the next byte has to lie. -/
structure Partial where
  /-- The bits read so far. -/
  bits : Nat
  /-- How many bytes are still owed. -/
  owed : Nat
  /-- The least next byte. -/
  least : Nat
  /-- The greatest next byte. -/
  greatest : Nat
deriving DecidableEq

/-- What a lead byte begins: a whole character, a partial one, or nothing. -/
inductive Lead
  /-- The byte is a character of its own. -/
  | whole (c : Char)
  /-- More bytes are owed. -/
  | start (p : Partial)
  /-- No character begins with this byte. -/
  | wrong

/-- The meaning of a byte between characters. -/
def lead (b : UInt8) : Lead :=
  let n := b.toNat
  if n ≤ 0x7f then .whole (Char.ofNat n)
  else if 0xc2 ≤ n ∧ n ≤ 0xdf then .start ⟨n - 0xc0, 1, 0x80, 0xbf⟩
  else if n = 0xe0 then .start ⟨0, 2, 0xa0, 0xbf⟩
  else if n = 0xed then .start ⟨0xd, 2, 0x80, 0x9f⟩
  else if 0xe1 ≤ n ∧ n ≤ 0xef then .start ⟨n - 0xe0, 2, 0x80, 0xbf⟩
  else if n = 0xf0 then .start ⟨0, 3, 0x90, 0xbf⟩
  else if 0xf1 ≤ n ∧ n ≤ 0xf3 then .start ⟨n - 0xf0, 3, 0x80, 0xbf⟩
  else if n = 0xf4 then .start ⟨4, 3, 0x80, 0x8f⟩
  else .wrong

/-- Whether a byte continues a partial character. -/
def Partial.takes (p : Partial) (b : UInt8) : Bool := p.least ≤ b.toNat && b.toNat ≤ p.greatest

/-- A partial character with one more byte: the bits so far, and what is owed after it. -/
def Partial.push (p : Partial) (b : UInt8) : Partial :=
  ⟨p.bits * 64 + (b.toNat - 0x80), p.owed - 1, 0x80, 0xbf⟩

/-- The character that stands for bytes which are not the form of any. -/
def replacement : Char := Char.ofNat 0xfffd

/-- Bytes on the way to characters: the character that has begun, if any, and the pieces so far, the
last one first.  A piece is a character, or `none` for a run of bytes that is the form of none. -/
structure Decoder where
  /-- The character that has begun. -/
  pending : Option Partial
  /-- The pieces so far, the last one first. -/
  pieces : List (Option Char)

namespace Decoder

/-- Nothing read yet. -/
def start : Decoder := ⟨none, []⟩

/-- Takes a byte between characters. -/
def begin (ps : List (Option Char)) (b : UInt8) : Decoder :=
  match lead b with
  | .whole c => ⟨none, some c :: ps⟩
  | .start p => ⟨some p, ps⟩
  | .wrong => ⟨none, none :: ps⟩

/-- Takes a byte. -/
def push (d : Decoder) (b : UInt8) : Decoder :=
  match d.pending with
  | none => begin d.pieces b
  | some p =>
    if p.takes b then
      let q := p.push b
      if q.owed = 0 then ⟨none, some (Char.ofNat q.bits) :: d.pieces⟩ else ⟨some q, d.pieces⟩
    else begin (none :: d.pieces) b

/-- The pieces in order; a character that is cut short is a run that is the form of none. -/
def finish (d : Decoder) : List (Option Char) :=
  match d.pending with
  | none => d.pieces.reverse
  | some _ => (none :: d.pieces).reverse

end Decoder

/-- Bytes as pieces. -/
def pieces (bs : List UInt8) : List (Option Char) := (bs.foldl Decoder.push .start).finish

/-- The text that bytes are the form of, if they are. -/
def ofBytes? (bs : List UInt8) : Option String :=
  ((pieces bs).mapM id).map String.ofList

/-- The text of any bytes, with a replacement character for each run that is the form of none. -/
def ofBytesLossy (bs : List UInt8) : String :=
  String.ofList ((pieces bs).map (·.getD replacement))

end Text
end LeaseKeeper
