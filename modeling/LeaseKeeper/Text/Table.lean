/-
# Tables of code points

A large table is kept as lines of text.  A line holds rows with spaces between them, and a row is a
list of numbers in base sixteen with points between them.  A row of two numbers may stand for a
closed range, and a row of one number for that number alone.
-/
import LeaseKeeper.Text.Digits
import LeaseKeeper.Text.Blank

namespace LeaseKeeper
namespace Text

/-- A closed range of code points. -/
structure Range where
  /-- The first code point. -/
  first : Nat
  /-- The last code point. -/
  last : Nat
deriving DecidableEq

/-- Whether a code point lies in a range. -/
def Range.holds (r : Range) (n : Nat) : Bool := r.first ≤ n && n ≤ r.last

/-- Whether a code point lies in one of some ranges. -/
def isIn (rs : List Range) (n : Nat) : Bool := rs.any (·.holds n)

/-- The numbers of a row. -/
def row (cs : List Char) : List Nat :=
  (splitOn (· == '.') cs).map fun digits => (hexDigits? digits).getD 0

/-- The rows of a table. -/
def rows (lines : List String) : List (List Nat) :=
  lines.flatMap fun line => (splitOn (· == ' ') line.toList).map row

/-- The ranges of a table. -/
def ranges (lines : List String) : List Range :=
  (rows lines).filterMap fun
    | [n] => some ⟨n, n⟩
    | [first, last] => some ⟨first, last⟩
    | _ => none

example : ranges ["a5.b2 d1"] = [⟨0xa5, 0xb2⟩, ⟨0xd1, 0xd1⟩] := by decide +kernel

end Text
end LeaseKeeper
