/-
# Doubles written in decimal

A double is written with digits, perhaps a point and perhaps a power of ten, or as a word for what
is infinite or no number.  It is the double nearest to what is written.
-/
import LeaseKeeper.Number.Shortest
import LeaseKeeper.Text.Digits

namespace LeaseKeeper
namespace Double

/-- The double of a machine number. -/
def ofFloat (x : Float) : Double := ⟨x.toBits⟩

/-- The machine number of a double. -/
def toFloat (d : Double) : Float := .ofBits d.bits

/-- The infinite double. -/
def infinite : Double := ⟨0x7ff0000000000000⟩

/-- A double that is no number. -/
def notANumber : Double := ⟨0x7ff8000000000000⟩

/-- The double with the other sign. -/
def opposite (d : Double) : Double := ⟨d.bits ^^^ 0x8000000000000000⟩

/-- The double nearest to a decimal number.  Beyond 400 places nothing but zero and the infinite
double is left. -/
def ofDecimal (x : Decimal) : Double :=
  let places := (digitCount x.digits : Int) + x.exponent
  if x.digits = 0 ∨ places < -400 then ⟨0⟩
  else if 400 < places then infinite
  else ofFloat (Float.ofScientific x.digits (decide (x.exponent < 0)) x.exponent.natAbs)

/-- A whole number with or without a sign. -/
def signed? : List Char → Option Int
  | '-' :: digits => (Text.digits? digits).map fun n => -(n : Int)
  | '+' :: digits => (Text.digits? digits).map fun n => (n : Int)
  | digits => (Text.digits? digits).map fun n => (n : Int)

/-- Whether a character stands in front of a power of ten. -/
def isPowerMark (c : Char) : Bool := c == 'e' || c == 'E'

/-- The decimal number without sign that is written with digits. -/
def decimal? (cs : List Char) : Option Decimal := do
  let power ← match cs.dropWhile (!isPowerMark ·) with
    | [] => some 0
    | _ :: power => signed? power
  let mantissa := cs.takeWhile (!isPowerMark ·)
  let whole := mantissa.takeWhile (· ≠ '.')
  let fraction := (mantissa.dropWhile (· ≠ '.')).drop 1
  let digits ← Text.digits? (whole ++ fraction)
  return ⟨digits, power - fraction.length⟩

/-- The double without sign that a text is. -/
def magnitude? (cs : List Char) : Option Double :=
  let word := String.ofList (cs.map Char.toLower)
  if word = "inf" ∨ word = "infinity" then some infinite
  else if word = "nan" then some notANumber
  else (decimal? cs).map ofDecimal

/-- The double that a text is. -/
def parse? : List Char → Option Double
  | '-' :: cs => (magnitude? cs).map opposite
  | '+' :: cs => magnitude? cs
  | cs => magnitude? cs

/-- Whether two doubles differ by less than the step from one to the next double. -/
def isNear (a b : Double) : Bool := (a.toFloat - b.toFloat).abs < Float.ofBits 0x3cb0000000000000

end Double
end LeaseKeeper
