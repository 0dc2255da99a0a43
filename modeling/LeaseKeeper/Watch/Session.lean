/-
# A watch and its owner on the clock

The owner waits for events with a deadline, lets time pass, stops the watch or drops it.  An event
that is queued is taken at once; else the task runs until there is one, or until the deadline.
-/
import LeaseKeeper.Clock
import LeaseKeeper.Watch.Task

namespace LeaseKeeper
namespace Watch

namespace Run

variable {σ : Type}

/-- The owner takes the next event, if there is one now. -/
def take? (s : Run σ) : Option (Event × Run σ) :=
  s.watch.take?.map fun (event, watch) => (event, { s with watch })

/-- A watch as a system on the clock. -/
def clocked (r : Renewer σ) : Clocked (Run σ) where
  move? now s := s.poll? r now
  wake? s := s.watch.task.wake?

end Run

/-- What an owner does. -/
inductive Act
  /-- Waits for an event for at most so many milliseconds. -/
  | next (within : Nat)
  /-- Waits for events until one comes that is no renewal, for at most so long for each. -/
  | drain (within : Nat)
  | stop
  | wait (ms : Nat)
  /-- Drops the watch, and lets a millisecond pass. -/
  | drop
deriving DecidableEq

/-- What an owner gets. -/
inductive Result
  /-- Nothing but that it was done. -/
  | done
  /-- The watch was dropped before. -/
  | dropped
  /-- An event, or none in time. -/
  | event (e : Option Event)
  /-- Events with the moments at which they were taken, the last of them not in time if `none`. -/
  | events (es : List (Instant × Option Event))

/-- A watch on the clock, as its owner sees it. -/
structure Session (σ : Type) where
  /-- The watch and the moment. -/
  timed : Timed (Run σ)
  /-- Whether the owner has dropped the watch. -/
  isDropped : Bool

namespace Session

variable {σ : Type}

/-- A new watch over a lease. -/
def start (lease : Lease) (config : Config) (others : σ) : Session σ :=
  ⟨⟨0, ⟨.start lease config, others, []⟩⟩, false⟩

/-- The moment `ms` milliseconds from now. -/
def after (s : Session σ) (ms : Nat) : Instant := s.timed.now + ms * Instant.milli

/-- Lets so many milliseconds pass. -/
def pass (r : Renewer σ) (fuel ms : Nat) (s : Session σ) : Session σ :=
  if ms = 0 then s else { s with timed := (Run.clocked r).runTo (s.after ms) fuel s.timed }

/-- Waits for an event for at most so many milliseconds. -/
def next (r : Renewer σ) (fuel ms : Nat) (s : Session σ) : Option Event × Session σ :=
  let (event, timed) := (Run.clocked r).takeBy Run.take? (s.after ms) fuel s.timed
  (event, { s with timed })

/-- Waits for events until one comes that is no renewal. -/
def drain (r : Renewer σ) (fuel ms : Nat) : Nat → Session σ →
    List (Instant × Option Event) × Session σ
  | 0, s => ([], s)
  | n + 1, s =>
    match s.next r fuel ms with
    | (some (.renewed lease), s₁) =>
      let (rest, s₂) := s₁.drain r fuel ms n
      ((s₁.timed.now, some (.renewed lease)) :: rest, s₂)
    | (event, s₁) => ([(s₁.timed.now, event)], s₁)

/-- The owner changes the watch on the spot. -/
def change (f : Watch → Watch) (s : Session σ) : Session σ :=
  { s with timed.state.watch := f s.timed.state.watch }

/-- Does what the owner does. -/
def act (r : Renewer σ) (fuel : Nat) (s : Session σ) : Act → Result × Session σ
  | .wait ms => (.done, s.pass r fuel ms)
  | .drop => (.done, { s.change Watch.abort with isDropped := true }.pass r fuel 1)
  | .next ms =>
    if s.isDropped then (.dropped, s)
    else
      let (event, s) := s.next r fuel ms
      (.event event, s)
  | .drain ms =>
    if s.isDropped then (.dropped, s)
    else
      let (events, s) := s.drain r fuel ms fuel
      (.events events, s)
  | .stop => if s.isDropped then (.dropped, s) else (.done, s.change Watch.stop)

end Session
end Watch
end LeaseKeeper
