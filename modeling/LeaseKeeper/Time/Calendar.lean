/-
# The calendar

A moment is a number of nanoseconds since the start of the year 1970, universal time.  Its date is
found by counting from the first of March of the year zero, so that a leap day is the last day of
its year.  Moments have three texts, which differ in how fractions of a second are written.
-/

namespace LeaseKeeper

/-- A moment. -/
structure Moment where
  /-- Nanoseconds since the start of 1970. -/
  nanos : Nat
deriving DecidableEq

namespace Moment

/-- Whole seconds since the start of 1970. -/
def seconds (m : Moment) : Nat := m.nanos / 1000000000

/-- Nanoseconds since the last whole second. -/
def subsecond (m : Moment) : Nat := m.nanos % 1000000000

/-- Days from the first of March of the year zero to the start of 1970. -/
def daysBefore : Nat := 719468

/-- Days in four hundred years. -/
def daysPerCycle : Nat := 146097

/-- The year, month and day of a number of days since the start of 1970. -/
def date (days : Nat) : Nat × Nat × Nat :=
  let all := days + daysBefore
  let day := all % daysPerCycle
  let year := (day - day / 1460 + day / 36524 - day / 146096) / 365
  let ofYear := day - (365 * year + year / 4 - year / 100)
  let month := (5 * ofYear + 2) / 153
  let start := all / daysPerCycle * 400 + year
  (if month < 10 then start else start + 1, if month < 10 then month + 3 else month - 9,
    ofYear - (153 * month + 2) / 5 + 1)

/-- A number with zeros in front up to a width. -/
def padded (width n : Nat) : String :=
  let digits := Nat.toDigits 10 n
  String.ofList (List.replicate (width - digits.length) '0' ++ digits)

/-- The date of a moment. -/
def dateText (m : Moment) : String :=
  let (year, month, day) := date (m.seconds / 86400)
  padded 4 year ++ "-" ++ padded 2 month ++ "-" ++ padded 2 day

/-- The time of day of a moment, in whole seconds. -/
def clockText (m : Moment) : String :=
  let second := m.seconds % 86400
  padded 2 (second / 3600) ++ ":" ++ padded 2 (second / 60 % 60) ++ ":" ++ padded 2 (second % 60)

/-- A fraction of a second without the zeros at its end, and without its point if it is zero. -/
def shortFraction (nanos : Nat) : String :=
  if nanos = 0 then ""
  else
    let digits := (padded 9 nanos).toList.reverse.dropWhile (· == '0')
    "." ++ String.ofList digits.reverse

/-- A fraction of a second in groups of three digits, as few as tell all of it. -/
def groupedFraction (nanos : Nat) : String :=
  if nanos = 0 then ""
  else if nanos % 1000000 = 0 then "." ++ padded 3 (nanos / 1000000)
  else if nanos % 1000 = 0 then "." ++ padded 6 (nanos / 1000)
  else "." ++ padded 9 nanos

/-- A moment as records have it. -/
def recordText (m : Moment) : String :=
  m.dateText ++ "T" ++ m.clockText ++ shortFraction m.subsecond ++ "Z"

/-- A moment as plain lines have it, in whole microseconds. -/
def lineText (m : Moment) : String :=
  m.dateText ++ "T" ++ m.clockText ++ "." ++ padded 6 (m.subsecond / 1000) ++ "Z"

/-- A moment as it is shown to a reader. -/
def text (m : Moment) : String :=
  m.dateText ++ " " ++ m.clockText ++ groupedFraction m.subsecond ++ " UTC"

example : date 11016 = (2000, 2, 29) ∧ date 0 = (1970, 1, 1) ∧ date 20088 = (2024, 12, 31) := by
  decide

end Moment
end LeaseKeeper
