/-
# The keeper

A keeper goes in rounds: it logs in, stores the token, and watches over the lease until the watch
ends.  After a quiet end the next round begins at once; after any failure the keeper pauses first.
Whenever it has to go on, the keeper looks at the shutdown signal before all else, and stops if the
signal has fired.  A watch that it lets go of, for whatever reason, has its task aborted.
-/
import LeaseKeeper.Clock
import LeaseKeeper.Watch.Task

namespace LeaseKeeper
namespace Keeper

/-- How a keeper works. -/
structure Plan where
  /-- The pause after a failed round. -/
  backoff : Duration
  /-- How leases are watched. -/
  watch : Watch.Config
deriving DecidableEq

/-- What a keeper is doing. -/
inductive Phase
  | starting
  /-- A login is in progress, with the answer that it will get. -/
  | loggingIn (answer : Option (Answer (Except VaultError Grant)))
  /-- The token of a lease is being stored, with the answer that this will get. -/
  | persisting (lease : Lease) (answer : Option (Answer (Except KeeperError Unit)))
  | watching (watch : Watch)
  | pausing (wakeAt : Instant)
  | stopped

namespace Phase

/-- The moment at which the keeper goes on by itself, if there is one. -/
def wake? : Phase → Option Instant
  | loggingIn (some answer) => some answer.ready
  | persisting _ (some answer) => some answer.ready
  | watching watch => watch.task.wake?
  | pausing t => some t
  | _ => none

/-- Whether the keeper has returned. -/
def isStopped : Phase → Bool
  | stopped => true
  | _ => false

/-- The watch over the lease, if there is one. -/
def watch? : Phase → Option Watch
  | watching watch => some watch
  | _ => none

end Phase
end Keeper

/-- A keeper, its collaborators, and what has happened so far. -/
structure Keeper (σ : Type) where
  /-- What the keeper is doing. -/
  phase : Keeper.Phase
  /-- The state of the collaborators. -/
  others : σ
  /-- What has happened so far. -/
  trace : Trace
  /-- The watch that the keeper has let go of last, if any. -/
  left : Option Watch

namespace Keeper

variable {σ : Type}

/-- A keeper that has not begun. -/
def start (others : σ) : Keeper σ := ⟨.starting, others, [], none⟩

/-- Adds to what has happened. -/
def record (k : Keeper σ) (events : Trace) : Keeper σ := { k with trace := k.trace ++ events }

/-- The keeper lets a watch go, which aborts its task. -/
def letGo (watch : Watch) (k : Keeper σ) : Keeper σ := { k with left := some watch.abort }

/-- The keeper returns, and lets its watch go if it has one. -/
def stop (k : Keeper σ) (now : Instant) : Keeper σ :=
  { k with phase := .stopped, left := (k.phase.watch?.map Watch.abort).or k.left }.record
    [(now, .note .loopStopped), (now, .stopped)]

/-- The keeper begins to log in. -/
def beginLogin (c : Collaborators σ) (now : Instant) (k : Keeper σ) : Keeper σ :=
  let (call, others) := c.login k.others now
  { k with phase := .loggingIn call.answer, others }.record
    ((now, .login) :: Trace.ofNotes now call.notes)

/-- The keeper begins to store the token of a lease. -/
def beginPersist (c : Collaborators σ) (now : Instant) (lease : Lease) (k : Keeper σ) :
    Keeper σ :=
  let (call, others) := c.persist k.others now lease
  { k with phase := .persisting lease call.answer, others }.record
    ((now, .persist lease.token) :: Trace.ofNotes now call.notes)

/-- The keeper reports a failure and pauses. -/
def fail (plan : Plan) (now : Instant) (report : Report) (k : Keeper σ) : Keeper σ :=
  { k with phase := .pausing (Instant.roundUp (now + plan.backoff.nanos)) }.record
    [(now, .report report), (now, .report (.retryScheduled plan.backoff))]

/-- The keeper takes the answer to its login. -/
def receiveLogin (c : Collaborators σ) (plan : Plan) (now : Instant)
    (answer : Answer (Except VaultError Grant)) (k : Keeper σ) : Keeper σ :=
  let k := k.record (Trace.ofNotes now answer.notes)
  match answer.value with
  | .ok grant => k.beginPersist c now (grant.startingAt answer.ready)
  | .error error => k.fail plan now (.loginFailed error)

/-- The keeper takes the answer to its call to store the token, and watches over the lease. -/
def receivePersist (plan : Plan) (now : Instant) (lease : Lease)
    (answer : Answer (Except KeeperError Unit)) (k : Keeper σ) : Keeper σ :=
  let k := k.record (Trace.ofNotes now answer.notes)
  match answer.value with
  | .ok () =>
    { k with phase := .watching (.start lease plan.watch) }.record
      [(now, .report (.tokenPersisted lease))]
  | .error error => k.fail plan now (.persistFailed error)

/-- The keeper takes an event of its watch, and lets the watch go after the last one. -/
def receiveEvent (plan : Plan) (now : Instant) (watch : Watch) (k : Keeper σ) :
    Watch.Event → Keeper σ
  | .renewed lease =>
    { k with phase := .watching watch }.record [(now, .report (.tokenRenewed lease))]
  | .done (.ok ()) => { k.letGo watch with phase := .starting }
  | .done (.error error) => (k.letGo watch).fail plan now (.renewalFailed error)

/-- The keeper's watch goes on: its task runs, or else the keeper takes an event. -/
def moveWatch? (c : Collaborators σ) (plan : Plan) (now : Instant) (watch : Watch)
    (k : Keeper σ) : Option (Keeper σ) :=
  match (⟨watch, k.others, k.trace⟩ : Watch.Run σ).poll? c.toRenewer now with
  | some run =>
    some { k with phase := .watching run.watch, others := run.others, trace := run.trace }
  | none => watch.take?.map fun (event, watch) => k.receiveEvent plan now watch event

/-- One move of the keeper at this moment, if there is one. -/
def move? (c : Collaborators σ) (plan : Plan) (cancelled : Bool) (now : Instant) (k : Keeper σ) :
    Option (Keeper σ) :=
  match k.phase with
  | .stopped => none
  | phase =>
    -- The signal comes before whatever else is due at this moment.
    if cancelled then some (k.stop now)
    else
      match phase with
      | .starting => some (k.beginLogin c now)
      | .loggingIn (some answer) =>
        if answer.ready ≤ now then some (k.receiveLogin c plan now answer) else none
      | .persisting lease (some answer) =>
        if answer.ready ≤ now then some (k.receivePersist plan now lease answer) else none
      | .watching watch => k.moveWatch? c plan now watch
      | .pausing t => if t ≤ now then some { k with phase := .starting } else none
      | _ => none

end Keeper
end LeaseKeeper
