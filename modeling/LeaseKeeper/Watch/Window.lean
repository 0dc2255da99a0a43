/-
# When to renew, and when to stop renewing

The next renewal is due when two thirds of the remaining time and a third of the grace window have
passed.  A lease is in its final window when it has no more than the grace window left, now or at
that moment.  The grace window is fixed by the configuration, or else it is between one and two
tenths of the time to live, by a draw.
-/
import LeaseKeeper.Time.Duration

namespace LeaseKeeper
namespace Watch

/-- How a lease is watched. -/
structure Config where
  /-- The increment to ask for; `none` means the time to live of the first lease. -/
  increment : Option Duration
  /-- The grace window; `none` means that it is drawn for each lease. -/
  grace : Option Duration
deriving DecidableEq

/-- Two thirds, as a double. -/
def twoThirds : Nat := Rounding.double 2 3

/-- One tenth, as a double. -/
def oneTenth : Nat := Rounding.double 1 10

/-- The longest rest after a failed renewal. -/
def longestRetry : Duration := .ofSeconds 30

/-- The grace window of a lease that lives for `ttl`. -/
def Config.graceFor? (c : Config) (ttl : Duration) (draw : Nat) : Option Duration :=
  match c.grace with
  | some grace => some grace
  | none =>
    match ttl.scale? oneTenth with
    | none => none
    | some tenth =>
      if tenth.nanos = 0 then some .zero
      else Duration.ofNanos? (tenth.nanos + draw % tenth.nanos)

/-- How long to rest before the next renewal. -/
def nextRenewal? (left grace : Duration) : Option Duration :=
  match left.scale? twoThirds with
  | none => none
  | some most => most.add? grace.third

/-- Whether a lease with `left` to live is in its final window, or would be after a rest. -/
def isFinal (left rest grace : Duration) : Bool :=
  left ≤ grace || left.less rest.nanos ≤ grace

theorem isFinal_iff {left rest grace : Duration} :
    isFinal left rest grace = true ↔ left.nanos - rest.nanos ≤ grace.nanos := by
  simp only [isFinal, Bool.or_eq_true, decide_eq_true_eq, Duration.le_def, Duration.nanos_less]
  omega

theorem graceFor?_fixed {c : Config} {grace : Duration} (h : c.grace = some grace)
    (ttl : Duration) (draw : Nat) : c.graceFor? ttl draw = some grace := by
  simp [Config.graceFor?, h]

example : (nextRenewal? (.ofSeconds 60) (.ofSeconds 9)).map Duration.nanos = some 43000000000 := by
  decide +kernel

end Watch
end LeaseKeeper
