/-
# Durations and instants

A duration counts whole nanoseconds and stays below `2 ^ 64` seconds.  Sums and products that
leave this range have no value; differences stop at zero.  An instant is a number of nanoseconds
on a clock that starts at zero, and timers fire on whole milliseconds only.
-/
import LeaseKeeper.Time.Rounding

namespace LeaseKeeper

/-- A length of time in whole nanoseconds, below `2 ^ 64` seconds. -/
structure Duration where
  /-- The length in nanoseconds. -/
  nanos : Nat
  /-- The length is less than `2 ^ 64` seconds. -/
  nanos_lt : nanos < UInt64.size * 1000000000
deriving DecidableEq

namespace Duration

@[ext] theorem ext {a b : Duration} (h : a.nanos = b.nanos) : a = b := by
  cases a; cases b; simp_all

instance : LE Duration := ⟨fun a b => a.nanos ≤ b.nanos⟩
instance : LT Duration := ⟨fun a b => a.nanos < b.nanos⟩
instance (a b : Duration) : Decidable (a ≤ b) := inferInstanceAs (Decidable (a.nanos ≤ b.nanos))
instance (a b : Duration) : Decidable (a < b) := inferInstanceAs (Decidable (a.nanos < b.nanos))

theorem le_def {a b : Duration} : a ≤ b ↔ a.nanos ≤ b.nanos := Iff.rfl

/-- The duration of that many nanoseconds, if it is in range. -/
def ofNanos? (n : Nat) : Option Duration :=
  if h : n < UInt64.size * 1000000000 then some ⟨n, h⟩ else none

/-- A whole number of seconds. -/
def ofSeconds (s : UInt64) : Duration :=
  ⟨s.toNat * 1000000000, by have := s.toNat_lt_size; omega⟩

/-- The empty duration. -/
def zero : Duration := ⟨0, by decide⟩

instance : Inhabited Duration := ⟨zero⟩

/-- The whole seconds of a duration. -/
def seconds (d : Duration) : Nat := d.nanos / 1000000000

/-- The nanoseconds beyond the whole seconds. -/
def subsecond (d : Duration) : Nat := d.nanos % 1000000000

/-- What is left of a duration after `n` nanoseconds, never less than nothing. -/
def less (d : Duration) (n : Nat) : Duration :=
  ⟨d.nanos - n, Nat.lt_of_le_of_lt (Nat.sub_le _ _) d.nanos_lt⟩

/-- The shorter of two durations. -/
def shorter (a b : Duration) : Duration := if a ≤ b then a else b

/-- A third of a duration, cut to whole nanoseconds. -/
def third (d : Duration) : Duration :=
  ⟨d.nanos / 3, Nat.lt_of_le_of_lt (Nat.div_le_self _ _) d.nanos_lt⟩

/-- The sum of two durations, if it is in range. -/
def add? (a b : Duration) : Option Duration := ofNanos? (a.nanos + b.nanos)

/-- A duration in seconds as a double: the seconds and the fraction are rounded on their own, and
their sum once more. -/
def toDouble (d : Duration) : Nat :=
  Rounding.addDouble (Rounding.double d.seconds 1) (Rounding.double d.subsecond 1000000000)

/-- A duration times a double: the product is a double, and is then rounded to the nearest
nanosecond.  The empty duration stays empty. -/
def scale? (factor : Nat) (d : Duration) : Option Duration :=
  match d.nanos with
  | 0 => some zero
  | _ + 1 =>
    let product := Rounding.mulDouble d.toDouble factor
    ofNanos? (Rounding.nearest (product * 1000000000) Rounding.unit)

@[simp] theorem nanos_zero : zero.nanos = 0 := rfl

@[simp] theorem nanos_ofSeconds (s : UInt64) : (ofSeconds s).nanos = s.toNat * 1000000000 := rfl

@[simp] theorem nanos_less (d : Duration) (n : Nat) : (d.less n).nanos = d.nanos - n := rfl

@[simp] theorem nanos_third (d : Duration) : d.third.nanos = d.nanos / 3 := rfl

@[simp] theorem nanos_shorter (a b : Duration) : (a.shorter b).nanos = min a.nanos b.nanos := by
  unfold shorter
  split <;> rename_i h <;> rw [le_def] at h <;> omega

theorem ofNanos?_eq_some {n : Nat} {d : Duration} : ofNanos? n = some d ↔ d.nanos = n := by
  unfold ofNanos?
  split
  · rename_i h
    constructor
    · intro e; cases e; rfl
    · rintro rfl; rfl
  · rename_i h
    constructor
    · intro e; cases e
    · rintro rfl; exact absurd d.nanos_lt h

theorem add?_eq_some {a b d : Duration} : a.add? b = some d ↔ d.nanos = a.nanos + b.nanos :=
  ofNanos?_eq_some

/-- Trailing zeros add nothing to a decimal fraction. -/
def dropTrailingZeros (ds : List Char) : List Char :=
  (ds.reverse.dropWhile (· == '0')).reverse

/-- A whole part and a fraction of `places` digits, without trailing zeros and without a point
when nothing follows it. -/
def decimal (whole fraction places : Nat) : String :=
  let digits := (Nat.repr fraction).toList
  let padded := List.replicate (places - digits.length) '0' ++ digits
  match dropTrailingZeros padded with
  | [] => Nat.repr whole
  | ds => Nat.repr whole ++ "." ++ String.ofList ds

/-- The duration in the largest of the units second, millisecond, microsecond and nanosecond of
which it holds at least one, as a decimal number. -/
def text (d : Duration) : String :=
  if 1000000000 ≤ d.nanos then decimal d.seconds d.subsecond 9 ++ "s"
  else if 1000000 ≤ d.nanos then decimal (d.nanos / 1000000) (d.nanos % 1000000) 6 ++ "ms"
  else if 1000 ≤ d.nanos then decimal (d.nanos / 1000) (d.nanos % 1000) 3 ++ "µs"
  else Nat.repr d.nanos ++ "ns"

end Duration

/-- A moment on the clock, in nanoseconds since it started. -/
abbrev Instant := Nat

namespace Instant

/-- The nanoseconds of a millisecond. -/
def milli : Nat := 1000000

/-- The first whole millisecond that is not before `t`: a timer set for `t` fires then. -/
def roundUp (t : Nat) : Nat := (t + milli - 1) / milli * milli

theorem le_roundUp (t : Nat) : t ≤ roundUp t := by
  unfold roundUp milli
  omega

theorem roundUp_lt (t : Nat) : roundUp t < t + milli := by
  unfold roundUp milli
  omega

end Instant
end LeaseKeeper
