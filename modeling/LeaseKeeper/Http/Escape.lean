/-
# Escaped characters

A character that may not stand in a part of an address is written as the bytes of its form, each as
a percent sign and two digits in base sixteen.  Which characters these are depends on the part; the
controls and all characters outside ASCII are always among them.
-/
import LeaseKeeper.Text.Digits
import LeaseKeeper.Text.Utf8

namespace LeaseKeeper
namespace Http

/-- A byte as a percent sign and two upper-case digits. -/
def percent (b : UInt8) : List Char :=
  ['%', (Nat.digitChar (b.toNat / 16)).toUpper, (Nat.digitChar (b.toNat % 16)).toUpper]

/-- A character as it stands in a part that may not hold the characters `extra`. -/
def escapeChar (extra : List Char) (c : Char) : List Char :=
  if c.toNat < 0x20 || 0x7f ≤ c.toNat || extra.contains c then
    (String.utf8EncodeChar c).flatMap percent
  else [c]

/-- A text as it stands in a part that may not hold the characters `extra`. -/
def escape (extra : List Char) (cs : List Char) : List Char := cs.flatMap (escapeChar extra)

/-- What a fragment may not hold. -/
def fragmentExtra : List Char := [' ', '"', '<', '>', Char.ofNat 0x60]

/-- What a path may not hold. -/
def pathExtra : List Char := fragmentExtra ++ ['#', '?', Char.ofNat 0x7b, Char.ofNat 0x7d]

/-- What the name of a user may not hold. -/
def userExtra : List Char := pathExtra ++ ['/', ':', ';', '=', '@', '[', '\\', ']', '^', '|']

/-- What a query may not hold; the queries of web addresses may not hold single quotes either. -/
def queryExtra (isSpecial : Bool) : List Char :=
  [' ', '"', '#', '<', '>'] ++ if isSpecial then ['\''] else []

/-- The value of two digits in base sixteen. -/
def hexPair? (a b : UInt8) : Option UInt8 :=
  (Text.hexDigits? [Char.ofNat a.toNat, Char.ofNat b.toNat]).map UInt8.ofNat

/-- Bytes in which two digits in base sixteen after a percent sign are replaced by the byte that
they stand for. -/
def unescape : List UInt8 → List UInt8
  | 0x25 :: a :: b :: rest =>
    match hexPair? a b with
    | some byte => byte :: unescape rest
    | none => 0x25 :: unescape (a :: b :: rest)
  | byte :: rest => byte :: unescape rest
  | [] => []

example : escape pathExtra "a b/é".toList = "a%20b/%C3%A9".toList := by decide +kernel
example : unescape (Text.bytes "%41%zz%e9") = [0x41, 0x25, 0x7a, 0x7a, 0xe9] := by decide +kernel

end Http
end LeaseKeeper
