/-
# The task of a watch at work

The task runs until it has to wait, and everything it does on the way happens at one moment.  It
looks first whether it was asked to stop.  When it is fresh it renews at once, unless the lease
cannot be renewed; when its rest is over it renews again; when an answer has come it takes it.
-/
import LeaseKeeper.Watch.Basic

namespace LeaseKeeper
namespace Watch

/-- A watch together with its collaborators and with what has happened so far. -/
structure Run (σ : Type) where
  /-- The watch. -/
  watch : Watch
  /-- The state of the collaborators. -/
  others : σ
  /-- What has happened so far. -/
  trace : Trace

namespace Run

variable {σ : Type}

/-- Adds to what has happened. -/
def record (s : Run σ) (events : Trace) : Run σ := { s with trace := s.trace ++ events }

/-- The task begins a renewal call. -/
def call (r : Renewer σ) (now : Instant) (s : Run σ) : Run σ :=
  let (call, others) := r.renew s.others now s.watch.lease.token s.watch.increment
  { watch := { s.watch with task := .renewing call.answer }
    others := others
    trace := s.trace ++ (now, .renew s.watch.lease.token s.watch.increment)
      :: Trace.ofNotes now call.notes }

/-- The task takes the answer to its call. -/
def receive (r : Renewer σ) (now : Instant) (answer : Answer Renewal) (s : Run σ) : Run σ :=
  let s := s.record (Trace.ofNotes now answer.notes)
  match answer.value with
  | .crashed => { s with watch := s.watch.crash }
  | .failed error =>
    let (watch, notes) := s.watch.reject now error
    { s with watch }.record (Trace.ofNotes now notes)
  | .granted grant =>
    let (draw, others) := r.draw s.others
    let (watch, notes) := s.watch.accept now (grant.startingAt answer.ready) draw
    { s with watch, others }.record (Trace.ofNotes now notes)

/-- The task takes the answer to its call if it has come. -/
def settle (r : Renewer σ) (now : Instant) (s : Run σ) : Run σ :=
  match s.watch.task with
  | .renewing (some answer) => if answer.ready ≤ now then s.receive r now answer else s
  | _ => s

/-- The task begins: it chooses a window and renews at once. -/
def begin (r : Renewer σ) (now : Instant) (s : Run σ) : Run σ :=
  let (draw, others) := r.draw s.others
  match s.watch.config.graceFor? s.watch.lease.ttl draw with
  | none => { s with watch := s.watch.crash, others }
  | some grace => { s with watch := { s.watch with grace := grace }, others }.call r now

/-- The task runs until it has to wait; `none` if it cannot go on at this moment. -/
def poll? (r : Renewer σ) (now : Instant) (s : Run σ) : Option (Run σ) :=
  match s.watch.task with
  | .ended => none
  | task =>
    if s.watch.stopAsked then some { s with watch := s.watch.finish (.ok ()) }
    else
      match task with
      | .fresh =>
        if s.watch.lease.renewable then some ((s.begin r now).settle r now)
        else some { s with watch := s.watch.finish cannotRenew }
      | .resting t => if t ≤ now then some ((s.call r now).settle r now) else none
      | .renewing (some answer) =>
        if answer.ready ≤ now then some (s.receive r now answer) else none
      | _ => none

end Run
end Watch
end LeaseKeeper
