/-
# The shortest decimal number that reads back

A double is given by its bits.  Of all decimal numbers that are rounded to it, those with the fewest
digits count, and of these the one nearest to it.  For each number of digits there are at most two
candidates: the neighbours of the value on the grid of decimal numbers with so many digits.
-/

namespace LeaseKeeper

/-- A double, given by its bits. -/
structure Double where
  /-- One bit for the sign, eleven for the exponent, 52 for the fraction. -/
  bits : UInt64
deriving DecidableEq

/-- A decimal number: `digits * 10 ^ exponent`. -/
structure Decimal where
  /-- The digits as a whole number. -/
  digits : Nat
  /-- The power of ten that they are multiplied with. -/
  exponent : Int
deriving DecidableEq

namespace Double

/-- Whether the sign bit is set. -/
def isNegative (d : Double) : Bool := d.bits >>> 63 == 1

/-- The field of the exponent. -/
def exponentField (d : Double) : Nat := (d.bits >>> 52 &&& 0x7ff).toNat

/-- The field of the fraction. -/
def fractionField (d : Double) : Nat := (d.bits &&& 0xfffffffffffff).toNat

/-- Whether the double is a number. -/
def isFinite (d : Double) : Bool := d.exponentField != 2047

/-- Whether the double stands for no number at all, not even an infinite one. -/
def isNaN (d : Double) : Bool := !d.isFinite && d.fractionField != 0

/-- The significand: the magnitude is this times a power of two. -/
def significand (d : Double) : Nat :=
  if d.exponentField = 0 then d.fractionField else 0x10000000000000 + d.fractionField

/-- How many times the power of two holds the least power, `2 ^ (-1074)`, as a power of two. -/
def shift (d : Double) : Nat := d.exponentField - 1

/-- Whether the magnitude is zero. -/
def isZero (d : Double) : Bool := d.significand == 0 && d.isFinite

/-- The magnitude in units of `2 ^ (-1076)`. -/
def units (d : Double) : Nat := (4 * d.significand) <<< d.shift

/-- The least number, in the same units, that may be rounded to the magnitude. -/
def least (d : Double) : Nat :=
  let below := if d.fractionField = 0 ∧ 1 < d.exponentField then 1 else 2
  (4 * d.significand - below) <<< d.shift

/-- The greatest number, in the same units, that may be rounded to the magnitude. -/
def greatest (d : Double) : Nat := (4 * d.significand + 2) <<< d.shift

/-- How many units make one. -/
def unitsPerOne : Nat := 1 <<< 1076

/-- A power of ten by which every decimal number met here becomes whole. -/
def scale : Nat := 400

/-- Whether a decimal number, given as a multiple of `10 ^ (-scale)`, is rounded to the magnitude.
The ends of the interval belong to it when the significand is even. -/
def takes (d : Double) (n : Nat) : Bool :=
  let x := n * unitsPerOne
  let low := d.least * Nat.pow 10 scale
  let high := d.greatest * Nat.pow 10 scale
  if d.significand % 2 = 0 then low ≤ x && x ≤ high else low < x && x < high

/-- How many decimal digits a number has. -/
def digitCount (n : Nat) : Nat := (Nat.toDigits 10 n).length

/-- The candidate with so many digits that is rounded to the magnitude, as a multiple of
`10 ^ place` with its place counted from `10 ^ (-scale)`; of two the nearer, and of two equally near
the even one. -/
def candidate? (d : Double) (place : Nat) : Option Nat :=
  let value := d.units * Nat.pow 10 scale
  let step := Nat.pow 10 place * unitsPerOne
  let k := value / step
  let r := value % step
  let lower := d.takes (k * Nat.pow 10 place)
  let upper := d.takes ((k + 1) * Nat.pow 10 place)
  if lower && upper then
    some (if 2 * r < step ∨ (2 * r = step ∧ k % 2 = 0) then k else k + 1)
  else if lower then some k
  else if upper then some (k + 1)
  else none

/-- The first candidate on grids with more and more digits, `more` of them at most. -/
def search (d : Double) (count : Nat) : Nat → Nat → Decimal
  | 0, n =>
    ⟨d.units * Nat.pow 10 scale / (Nat.pow 10 (count - n) * unitsPerOne),
      (count - n : Int) - scale⟩
  | more + 1, n =>
    match d.candidate? (count - n) with
    | some k => ⟨k, (count - n : Int) - scale⟩
    | none => search d count more (n + 1)

/-- The decimal number without zeros at the end of its digits, in at most `fuel` of them. -/
def dropZeros : Nat → Decimal → Decimal
  | 0, x => x
  | fuel + 1, x =>
    if x.digits ≠ 0 ∧ x.digits % 10 = 0 then dropZeros fuel ⟨x.digits / 10, x.exponent + 1⟩ else x

/-- The shortest decimal number that is rounded to the magnitude. -/
def shortest (d : Double) : Decimal :=
  let count := digitCount (d.units * Nat.pow 10 scale / unitsPerOne)
  dropZeros 20 (d.search count 17 1)

end Double

/-- Where decimal numbers are written without a power of ten: from `lowest` to `highest` places
before the point. -/
structure Layout where
  /-- The least number of places before the point; zeros after the point count as negative. -/
  lowest : Int
  /-- The greatest number of places before the point. -/
  highest : Int

namespace Decimal

/-- A decimal number with a point. -/
def positional (x : Decimal) : String :=
  let ds := (Nat.repr x.digits).toList
  let before := (ds.length : Int) + x.exponent
  if 0 ≤ x.exponent then
    String.ofList (ds ++ List.replicate x.exponent.toNat '0') ++ ".0"
  else if 0 < before then
    String.ofList (ds.take before.toNat) ++ "." ++ String.ofList (ds.drop before.toNat)
  else "0." ++ String.ofList (List.replicate (-before).toNat '0' ++ ds)

/-- A decimal number with a power of ten. -/
def scientific (x : Decimal) : String :=
  let ds := (Nat.repr x.digits).toList
  let power := (ds.length : Int) + x.exponent - 1
  String.ofList (ds.take 1) ++ (if ds.length = 1 then "" else "." ++ String.ofList (ds.drop 1))
    ++ "e" ++ toString power

/-- A decimal number as a layout wants it. -/
def text (x : Decimal) (layout : Layout) : String :=
  let before := ((Nat.repr x.digits).length : Int) + x.exponent
  if layout.lowest ≤ before ∧ before ≤ layout.highest then x.positional else x.scientific

end Decimal

/-- A finite double as a layout wants it. -/
def Double.text (d : Double) (layout : Layout) : String :=
  (if d.isNegative then "-" else "")
    ++ (if d.isZero then "0.0" else d.shortest.text layout)

example : (Double.mk 0x3fb999999999999a).shortest = ⟨1, -1⟩ := by decide +kernel

example : (Double.mk 1).text ⟨-4, 16⟩ = "5e-324" := by decide +kernel

end LeaseKeeper
