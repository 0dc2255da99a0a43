/-
# Errands

An agent that is really at work cannot know how its calls will end.  It begins a call by asking for
an errand: a request that is to be sent, or a token that is to be written.  While the errand is
under way its call has no answer; when somebody comes back with a result, the result becomes the
answer.  A call that fails before any errand is answered at once.
-/
import LeaseKeeper.Agent

namespace LeaseKeeper

/-- What an agent asks others to do. -/
inductive Errand
  /-- A request is to be sent. -/
  | send (request : Http.Request)
  /-- A token is to be written to a path. -/
  | write (path token : String)
deriving DecidableEq

/-- What comes back from an errand. -/
inductive Errand.Result
  /-- How a call to the server ended. -/
  | call (outcome : Http.Outcome)
  /-- Whether a token was written to a path. -/
  | written (path : String) (result : Except IoError Unit)

/-- What an agent at work knows of its surroundings. -/
structure Surroundings where
  /-- The content of the identity file of the moment. -/
  identity : Except IoError (List UInt8)
  /-- Where the agent finds itself. -/
  setting : TokenFile.Setting
  /-- The errand that was asked for last, until somebody takes it up. -/
  errand : Option Errand
  /-- The numbers that are still to be drawn; zero when they are used up. -/
  draws : List Nat

namespace Agent

/-- Asks for a request to be sent, unless it cannot be built. -/
def asking {α : Type} (w : Surroundings) (now : Instant) (notes : List Note)
    (fail : VaultError → α) : Except TransportFault Http.Request → Call α × Surroundings
  | .error fault => (⟨notes, some ⟨now, fail (.transport fault), []⟩⟩, w)
  | .ok request => (⟨notes, none⟩, { w with errand := some (.send request) })

/-- Begins a login. -/
def askLogin (a : Agent) (w : Surroundings) (now : Instant) :
    Call (Except VaultError Grant) × Surroundings :=
  match Vault.identity a.auth.identityPath w.identity with
  | .error e => (.answered now (.error e), w)
  | .ok identity =>
    asking w now [.loggingIn a.auth.method a.auth.role] .error
      (a.client.loginRequest a.auth.method identity a.auth.role)

/-- Begins a renewal. -/
def askRenewal (a : Agent) (w : Surroundings) (now : Instant) (token : String)
    (increment : Duration) : Call Renewal × Surroundings :=
  asking w now [] .failed (a.client.renewalRequest token increment)

/-- Begins to store the token of a lease. -/
def askPersist (a : Agent) (w : Surroundings) (now : Instant) (lease : Lease) :
    Call (Except KeeperError Unit) × Surroundings :=
  match a.store.path w.setting with
  | .error e => (.answered now (.error e), w)
  | .ok path => (.unanswered, { w with errand := some (.write path lease.token) })

/-- Draws a number. -/
def drawNumber (w : Surroundings) : Nat × Surroundings :=
  (w.draws.headD 0, { w with draws := w.draws.tail })

/-- What the keeper of an agent at work works with. -/
def errands (a : Agent) : Collaborators Surroundings where
  renew := a.askRenewal
  draw := drawNumber
  login := a.askLogin
  persist := a.askPersist

end Agent

namespace Keeper

/-- The answer that a written token gives. -/
def writtenAnswer (now : Instant) (path : String) :
    Except IoError Unit → Answer (Except KeeperError Unit)
  | .ok () => ⟨now, .ok (), [.tokenWritten path]⟩
  | .error cause => ⟨now, .error (.notPersisted path cause), []⟩

/-- The phase when the result of its errand has come. -/
def Phase.settle (now : Instant) : Phase → Errand.Result → Phase
  | loggingIn none, .call outcome =>
    loggingIn ((Vault.verdictOn outcome).map fun v => ⟨now, v, []⟩)
  | persisting lease none, .written path result =>
    persisting lease (some (writtenAnswer now path result))
  | watching watch, .call outcome =>
    match watch.task with
    | .renewing none =>
      let answer := (Vault.verdictOn outcome).map fun v => ⟨now, Renewal.ofVerdict v, []⟩
      watching { watch with task := .renewing answer }
    | _ => watching watch
  | phase, _ => phase

end Keeper
end LeaseKeeper
