/-
# Rehearsals

A rehearsal runs an agent in a world until a cue, and fires the shutdown signal there.  The cue is a
call that is never answered, or a number of written lines; with no cue the signal fires when the
time of the rehearsal is over.  It fires only when the agent has nothing under way, so that what is
written before is complete.
-/
import LeaseKeeper.Agent.World
import LeaseKeeper.Keeper.Timeline

namespace LeaseKeeper

namespace Keeper.Phase

/-- Whether an answer is on its way. -/
def isExpecting : Keeper.Phase → Bool
  | loggingIn (some _) => true
  | persisting _ (some _) => true
  | watching watch =>
    match watch.task with
    | .renewing (some _) => true
    | _ => false
  | _ => false

/-- Whether a call is in progress that is never answered. -/
def isUnanswered : Keeper.Phase → Bool
  | loggingIn none => true
  | persisting _ none => true
  | watching watch =>
    match watch.task with
    | .renewing none => true
    | _ => false
  | _ => false

end Keeper.Phase

/-- When the shutdown signal of a rehearsal fires before its time is over. -/
inductive Rehearsal.Cue
  /-- When a call is in progress that is never answered. -/
  | unanswered
  /-- When so many lines have been written. -/
  | written (lines : Nat)
  /-- Never. -/
  | never
deriving DecidableEq

/-- A rehearsal. -/
structure Rehearsal where
  /-- When the signal fires. -/
  cue : Rehearsal.Cue
  /-- When the signal fires at the latest. -/
  deadline : Instant
deriving DecidableEq

namespace Rehearsal

/-- How many steps an agent takes at most: enough for every reply of the server, and for a few
rounds that send no request. -/
def fuel (w : World) : Nat := 40 * (w.server.replies.length + 2)

/-- How moments are put into words. -/
def stamp : Instant → String := fun _ => "<time>"

/-- The lines that a log writes about events. -/
def linesOf (log : Option Log.Sink) (events : List Log.Event) : List String :=
  Log.Session.linesOf log none events

/-- Whether it is time to fire, by what the keeper is doing and how many lines were written. -/
def Cue.isDue (cue : Cue) (phase : Keeper.Phase) (lines : Nat) : Bool :=
  match cue with
  | unanswered => phase.isUnanswered
  | written n => n ≤ lines
  | never => false

/-- The keeper of an agent when the signal is about to fire; `lines` counts what was written. -/
def perform (r : Rehearsal) (a : Agent) (w : World) (lines : Trace → Nat) : Timed (Keeper World) :=
  let clocked := Keeper.clocked a.collaborators a.plan .fresh
  let holds (s : Timed (Keeper World)) : Bool :=
    (clocked.move? s.now s.state).isNone && !s.state.phase.isExpecting
      && r.cue.isDue s.state.phase (lines s.state.trace)
  clocked.runUntil holds r.deadline (fuel w) ⟨0, .start w⟩

/-- The keeper of an agent after the signal. -/
def finish (a : Agent) (s : Timed (Keeper World)) : Timed (Keeper World) :=
  (Keeper.clocked a.collaborators a.plan Shutdown.Channel.fresh.cancel).runTo s.now 1 s

/-- Runs an agent until it has stopped. -/
def run (r : Rehearsal) (a : Agent) (w : World) : Keeper World :=
  (finish a (r.perform a w fun _ => 0)).state

/-- How the program ended. -/
structure Ended where
  /-- Its exit code. -/
  exit : Nat
  /-- What it said about its failure. -/
  errors : List String
  /-- What its log wrote. -/
  lines : List String
  /-- The world after it. -/
  world : World

/-- Runs the whole program until a signal has ended it. -/
def runProgram (r : Rehearsal) (env : Environment) (hostname : String) (signal : Signal)
    (w : World) : Ended :=
  let launch := Program.launch env hostname
  match launch.agent with
  | .error e => ⟨1, [Program.lastWords e], linesOf launch.log launch.events, w⟩
  | .ok agent =>
    let written (t : Trace) := linesOf launch.log (launch.events ++ t.journal stamp)
    let played := r.perform agent w fun t => (written t).length
    let before := played.state.trace
    let stopped := (finish agent played).state
    let after : Trace := stopped.trace.drop before.length
    ⟨0, [], linesOf launch.log (launch.events ++ before.journal stamp
        ++ [Program.received signal] ++ after.journal stamp), stopped.others⟩

end Rehearsal
end LeaseKeeper
