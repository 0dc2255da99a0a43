/-
# The watch over a lease

A watch owns one task, which renews the lease again and again, and a queue of events from the task
to its owner.  The owner takes events one at a time: first what is queued, then, once a terminal
event was taken, the same quiet end for ever.  A task that ends without a terminal event counts as
lost.  The owner can ask the task to stop, and can abort it.
-/
import LeaseKeeper.Collaborators
import LeaseKeeper.Watch.Window

namespace LeaseKeeper
namespace Watch

/-- What a task tells its owner. -/
inductive Event
  | renewed (lease : Lease)
  /-- The task has ended; without an error the lease ran its course or the task was stopped. -/
  | done (result : Except VaultError Unit)

namespace Event

/-- Whether an event is the last one. -/
def isDone : Event → Bool
  | renewed _ => false
  | done _ => true

end Event

/-- What the task of a watch is doing. -/
inductive Task
  | fresh
  /-- A renewal call is in progress, with the answer that it will get. -/
  | renewing (answer : Option (Answer Renewal))
  /-- The task rests until a moment. -/
  | resting (wakeAt : Instant)
  | ended

namespace Task

/-- Whether the task has ended. -/
def hasEnded : Task → Bool
  | ended => true
  | _ => false

/-- The moment at which the task goes on, if there is one. -/
def wake? : Task → Option Instant
  | renewing (some answer) => some answer.ready
  | resting t => some t
  | _ => none

end Task
end Watch

/-- A watch over a lease: its task, and the events that the owner has not taken. -/
structure Watch where
  /-- The lease as it was granted; its token is the one that is renewed. -/
  lease : Lease
  /-- How the lease is watched. -/
  config : Watch.Config
  /-- The grace window in force. -/
  grace : Duration
  /-- The time to live that the previous renewal gave. -/
  prior : Duration
  /-- The lease of the latest success. -/
  lastGood : Lease
  /-- What the task is doing. -/
  task : Watch.Task
  /-- Whether the owner has asked the task to stop. -/
  stopAsked : Bool
  /-- The events that the owner has not taken, the oldest first. -/
  queue : List Watch.Event
  /-- Whether the owner has taken a terminal event. -/
  finished : Bool

namespace Watch

/-- A new watch over a lease. -/
def start (lease : Lease) (config : Config) : Watch where
  lease := lease
  config := config
  grace := .zero
  prior := .zero
  lastGood := lease
  task := .fresh
  stopAsked := false
  queue := []
  finished := false

/-- The increment to ask for. -/
def increment (w : Watch) : Duration := w.config.increment.getD w.lease.ttl

/-- The owner asks the task to stop. -/
def stop (w : Watch) : Watch := { w with stopAsked := true }

/-- The owner aborts the task. -/
def abort (w : Watch) : Watch := { w with task := .ended }

/-- The next event for the owner, if there is one now. -/
def take? (w : Watch) : Option (Event × Watch) :=
  if w.finished then some (.done (.ok ()), w)
  else
    match w.queue with
    | event :: rest => some (event, { w with queue := rest, finished := event.isDone })
    | [] =>
      if w.task.hasEnded then some (.done (.error .watchLost), { w with finished := true })
      else none

/-- The task ends, and says how. -/
def finish (w : Watch) (result : Except VaultError Unit) : Watch :=
  { w with task := .ended, queue := w.queue ++ [Event.done result] }

/-- The task ends without a word. -/
def crash (w : Watch) : Watch := { w with task := .ended }

/-- What the task does next. -/
inductive Verdict
  /-- It rests, and then renews again. -/
  | rest (pause : Duration)
  /-- It ends, and says how. -/
  | finish (result : Except VaultError Unit)
  /-- A length of time is out of range, and the task crashes. -/
  | overflow

/-- The task does what a verdict says. -/
def follow (w : Watch) (now : Instant) : Verdict → Watch
  | .rest pause => { w with task := .resting (Instant.roundUp (now + pause.nanos)) }
  | .finish result => w.finish result
  | .overflow => w.crash

/-- The end of a watch over a lease that cannot be renewed. -/
def cannotRenew : Except VaultError Unit := .error (.renewalFailed .notRenewable)

/-- The grace window after a lease was renewed: a new one only while leases grow. -/
def graceAfter? (w : Watch) (renewed : Lease) (draw : Nat) : Option Duration :=
  if w.prior < renewed.ttl then w.config.graceFor? renewed.ttl draw else some w.grace

/-- What follows a success, with the window that is in force after it. -/
def afterSuccess (renewed : Lease) (grace : Duration) : Verdict :=
  match nextRenewal? renewed.ttl grace with
  | none => .overflow
  | some rest => if isFinal renewed.ttl rest grace then .finish (.ok ()) else .rest rest

/-- What follows a failure, with `left` of the last good lease. -/
def afterFailure (error : VaultError) (left grace : Duration) : Verdict :=
  if error = .notRenewable then .finish cannotRenew
  else
    match nextRenewal? left grace with
    | none => .overflow
    | some rest =>
      let rest := rest.shorter longestRetry
      if isFinal left rest grace then .finish (.error (.renewalFailed error)) else .rest rest

/-- The task takes a renewed lease: it tells its owner, moves the window, and goes on as the new
lease allows. -/
def accept (w : Watch) (now : Instant) (renewed : Lease) (draw : Nat) : Watch × List Note :=
  -- The owner is told before the lease is looked at, so it is told of a last renewal as well.
  let told := { w with lastGood := renewed, queue := w.queue ++ [Event.renewed renewed] }
  if renewed.renewable then
    match w.graceAfter? renewed draw with
    | none => (told.crash, [.leaseRenewed renewed.ttl])
    | some grace =>
      let moved := { told with grace := grace, prior := renewed.ttl }
      match afterSuccess renewed grace with
      | .finish result =>
        (moved.finish result, [.leaseRenewed renewed.ttl, .finalWindow renewed.ttl])
      | verdict => (moved.follow now verdict, [.leaseRenewed renewed.ttl])
  else (told.finish cannotRenew, [.leaseRenewed renewed.ttl])

/-- The task takes a failed renewal: it tries again while the last good lease has time left. -/
def reject (w : Watch) (now : Instant) (error : VaultError) : Watch × List Note :=
  let left := w.lastGood.remaining now
  match afterFailure error left w.grace with
  | .rest pause => (w.follow now (.rest pause), [.retrying error left pause])
  | verdict => (w.follow now verdict, [])

@[simp] theorem take?_start (lease : Lease) (config : Config) :
    (start lease config).take? = none := rfl

theorem take?_of_finished {w : Watch} (h : w.finished = true) :
    w.take? = some (.done (.ok ()), w) := by
  simp [take?, h]

end Watch
end LeaseKeeper
