/-
# An agent and its world

The world around an agent is a server, a tree of files, and chance.  A login reads the identity file
of the moment and calls the server; a renewal calls the server; a token is stored in the tree.  A
call to the server takes a while, all else takes no time.  A call that the server leaves without an
answer never ends.
-/
import LeaseKeeper.Agent

namespace LeaseKeeper

/-- The world around an agent. -/
structure World where
  /-- The server. -/
  server : Http.Server
  /-- The files. -/
  tree : File.Tree
  /-- Where the agent finds itself among the files. -/
  setting : TokenFile.Setting
  /-- The numbers that are still to be drawn; zero when they are used up. -/
  draws : List Nat

namespace Agent

/-- How long a call to the server takes. -/
def callTime : Nat := Instant.milli

/-- The call that ends with a result, if it ends. -/
def called {α : Type} (now : Instant) (notes : List Note) : Option α → Call α
  | none => ⟨notes, none⟩
  | some value => ⟨notes, some ⟨now + callTime, value, []⟩⟩

/-- Begins a login. -/
def login (a : Agent) (w : World) (now : Instant) : Call (Except VaultError Grant) × World :=
  match Vault.identity a.auth.identityPath (w.tree.read w.setting.work a.auth.identityPath) with
  | .error e => (.answered now (.error e), w)
  | .ok identity =>
    let (result, server) := a.client.login a.auth.method identity a.auth.role w.server
    (called now [.loggingIn a.auth.method a.auth.role] result, { w with server })

/-- Begins a renewal. -/
def renew (a : Agent) (w : World) (now : Instant) (token : String) (increment : Duration) :
    Call Renewal × World :=
  let (result, server) := a.client.renew token increment w.server
  (called now [] (result.map .ofVerdict), { w with server })

/-- Stores the token of a lease. -/
def persist (a : Agent) (w : World) (now : Instant) (lease : Lease) :
    Call (Except KeeperError Unit) × World :=
  match a.store.persist w.setting w.tree lease.token with
  | (.ok note, tree) => (⟨[], some ⟨now, .ok (), [note]⟩⟩, { w with tree })
  | (.error e, tree) => (.answered now (.error e), { w with tree })

/-- Draws a number. -/
def draw (w : World) : Nat × World := (w.draws.headD 0, { w with draws := w.draws.tail })

/-- What the keeper of an agent works with in a world. -/
def collaborators (a : Agent) : Collaborators World where
  renew := a.renew
  draw := draw
  login := a.login
  persist := a.persist

end Agent
end LeaseKeeper
