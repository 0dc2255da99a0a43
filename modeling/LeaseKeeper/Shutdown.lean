/-
# The shutdown signal

One trigger, and any number of handles that watch it.  The channel between them holds a flag, the
number of times it was written, and whether the trigger still exists; to drop the trigger counts
as firing it.  A handle remembers how many writes there were when it was made, or when the handle
was made that it is a copy of.  It can be asked at once whether the signal has fired: the flag says
so, or else that nobody is left to write it.  A wait sleeps until it is woken: it remembers how many
writes it has seen, and looks at the flag again only when there was another one or the trigger is
gone.
-/

namespace LeaseKeeper
namespace Shutdown

/-- What the trigger and all handles share. -/
structure Channel where
  /-- The flag as it was last written. -/
  flag : Bool
  /-- How many times the flag was written. -/
  writes : Nat
  /-- Whether the trigger still exists. -/
  triggerHeld : Bool
deriving DecidableEq

namespace Channel

/-- A new channel, whose trigger is held and has not fired. -/
def fresh : Channel := ⟨false, 0, true⟩

/-- The trigger fires, if it still exists. -/
def cancel (c : Channel) : Channel :=
  if c.triggerHeld then { c with flag := true, writes := c.writes + 1 } else c

/-- The trigger is dropped. -/
def dropTrigger (c : Channel) : Channel := { c with triggerHeld := false }

/-- Whether the signal has fired, asked without waiting. -/
def isCancelled (c : Channel) : Bool := c.flag || !c.triggerHeld

@[simp] theorem isCancelled_fresh : fresh.isCancelled = false := rfl

@[simp] theorem isCancelled_cancel (c : Channel) : c.cancel.isCancelled = true := by
  cases h : c.triggerHeld <;> simp [cancel, isCancelled, h]

@[simp] theorem isCancelled_dropTrigger (c : Channel) : c.dropTrigger.isCancelled = true := by
  simp [dropTrigger, isCancelled]

end Channel

/-- A handle that watches the channel. -/
structure Handle where
  /-- How many writes it has seen. -/
  seen : Nat
deriving DecidableEq

namespace Handle

/-- A handle on a channel, which has seen all writes so far. -/
def on (c : Channel) : Handle := ⟨c.writes⟩

/-- Whether there was a write that the handle has not seen; `none` if the trigger is gone. -/
def hasChanged? (h : Handle) (c : Channel) : Option Bool :=
  if c.triggerHeld then some (c.writes != h.seen) else none

/-- Whether the signal has fired, as the handle says when it is asked. -/
def isCancelled (h : Handle) (c : Channel) : Bool := c.flag || (h.hasChanged? c).isNone

end Handle

/-- A wait for the signal. -/
inductive Wait
  /-- The wait has not looked at the flag yet. -/
  | fresh
  /-- The wait sleeps, having seen the flag after this many writes. -/
  | asleep (seen : Nat)
  | resolved
deriving DecidableEq

namespace Wait

/-- Looks at the flag, and sleeps unless the signal has fired. -/
def look (c : Channel) : Wait :=
  if c.flag then .resolved else if c.triggerHeld then .asleep c.writes else .resolved

/-- The wait runs until it is over or has to sleep. -/
def poll (c : Channel) : Wait → Wait
  | .fresh => look c
  | .asleep seen =>
    if c.writes ≠ seen then look c else if c.triggerHeld then .asleep seen else .resolved
  | .resolved => .resolved

/-- Whether the wait is over. -/
def isResolved : Wait → Bool
  | .resolved => true
  | _ => false

end Wait

/-- A channel together with its handles, numbered in the order of their making, and the named
waits that were started on them. -/
structure Group where
  /-- The channel of all handles. -/
  channel : Channel
  /-- The handles that were made; `none` if a handle exists no longer. -/
  handles : List (Option Handle)
  /-- The waits, one for each name. -/
  waits : List (String × Wait)
deriving DecidableEq

/-- An operation on a group. -/
inductive Op
  | cancel
  | dropTrigger
  | clone (i : Nat)
  | drop (i : Nat)
  /-- Handle `i` is asked whether the signal has fired. -/
  | ask (i : Nat)
  /-- Handle `i` is waited on until the wait has to sleep. -/
  | tryWait (i : Nat)
  /-- A named wait is started on handle `i`. -/
  | startWait (i : Nat) (name : String)
  /-- All waits run until they are over or have to sleep. -/
  | runWaits
deriving DecidableEq

/-- What an operation gives back. -/
inductive Answer
  /-- Nothing but that it was done. -/
  | done
  /-- The handle does not exist, or no longer. -/
  | gone
  /-- The number of a new handle. -/
  | handle (i : Nat)
  /-- Whether the signal has fired, or the wait is over. -/
  | fired (b : Bool)
  /-- The names of all waits, in order, with whether they are over. -/
  | waits (ws : List (String × Bool))
deriving DecidableEq

namespace Group

/-- A new channel with its first handle. -/
def fresh : Group := ⟨.fresh, [some (.on .fresh)], []⟩

/-- Handle `i`, if it exists. -/
def handle? (g : Group) (i : Nat) : Option Handle := (g.handles[i]?).join

/-- The named waits in the order of their names. -/
def report (g : Group) : List (String × Bool) :=
  (g.waits.map fun w => (w.1, w.2.isResolved)).mergeSort fun a b => !decide (b.1 < a.1)

/-- Starts a wait under a name; it takes the place of an earlier one of that name. -/
def start (g : Group) (name : String) : Group :=
  { g with waits := g.waits.filter (·.1 ≠ name) ++ [(name, .fresh)] }

/-- What is done with an existing handle. -/
def onHandle (g : Group) (i : Nat) (act : Handle → Group × Answer) : Group × Answer :=
  match g.handle? i with
  | none => (g, .gone)
  | some h => act h

/-- One operation: the group after it, and what it gives back. -/
def step (g : Group) : Op → Group × Answer
  | .cancel => ({ g with channel := g.channel.cancel }, .done)
  | .dropTrigger => ({ g with channel := g.channel.dropTrigger }, .done)
  | .clone i =>
    g.onHandle i fun h =>
      ({ g with handles := g.handles ++ [some h] }, .handle g.handles.length)
  | .drop i => g.onHandle i fun _ => ({ g with handles := g.handles.set i none }, .done)
  | .ask i => g.onHandle i fun h => (g, .fired (h.isCancelled g.channel))
  | .tryWait i => g.onHandle i fun _ => (g, .fired (Wait.fresh.poll g.channel).isResolved)
  | .startWait i name => g.onHandle i fun _ => (g.start name, .done)
  | .runWaits =>
    let ran := { g with waits := g.waits.map fun w => (w.1, w.2.poll g.channel) }
    (ran, .waits ran.report)

/-- The group after a list of operations, with their answers. -/
def run (g : Group) : List Op → Group × List Answer
  | [] => (g, [])
  | op :: ops =>
    let (g₁, a) := g.step op
    let (g₂, as) := g₁.run ops
    (g₂, a :: as)

end Group
end Shutdown
end LeaseKeeper
