/-
# A keeper on the clock

A keeper shares the clock with whoever holds the trigger of its shutdown signal.  Controls are
applied at given moments, and the keeper runs in between.
-/
import LeaseKeeper.Keeper.Machine
import LeaseKeeper.Shutdown

namespace LeaseKeeper
namespace Keeper

/-- What the holder of the trigger does. -/
inductive Control
  | cancel
  | drop
deriving DecidableEq

/-- The channel after a control. -/
def Control.apply (channel : Shutdown.Channel) : Control → Shutdown.Channel
  | cancel => channel.cancel
  | drop => channel.dropTrigger

variable {σ : Type}

/-- A keeper as a system on the clock, under a shutdown signal. -/
def clocked (c : Collaborators σ) (plan : Plan) (channel : Shutdown.Channel) :
    Clocked (Keeper σ) where
  move? now k := k.move? c plan channel.isCancelled now
  wake? k := k.phase.wake?

/-- The run up to a deadline, with controls applied at their moments, and at most `fuel` steps
between one control and the next. -/
def runControls (c : Collaborators σ) (plan : Plan) (fuel : Nat) (deadline : Instant) :
    List (Instant × Control) → Shutdown.Channel → Timed (Keeper σ) → Timed (Keeper σ)
  | [], channel, s => (clocked c plan channel).runTo deadline fuel s
  | (moment, control) :: rest, channel, s =>
    if deadline < moment then (clocked c plan channel).runTo deadline fuel s
    else
      runControls c plan fuel deadline rest (control.apply channel)
        ((clocked c plan channel).runTo moment fuel s)

/-- The keeper at a deadline, when it starts at zero after some controls and runs under others. -/
def runUnder (c : Collaborators σ) (plan : Plan) (fuel : Nat) (before : List Control)
    (controls : List (Instant × Control)) (deadline : Instant) (k : Keeper σ) : Keeper σ :=
  (runControls c plan fuel deadline controls (before.foldl Control.apply .fresh) ⟨0, k⟩).state

end Keeper
end LeaseKeeper
