/-
# What happens to a token

Everything that can be seen from outside while a token is looked after: the calls that are begun,
the reports to the observer, and the notes that the parts write to the journal.  A trace lists
them in order, each with its moment.
-/
import LeaseKeeper.Fault.Keeper
import LeaseKeeper.Lease

namespace LeaseKeeper

/-- A note that a part of the program writes to the journal about its own work. -/
inductive Note
  /-- A login is about to be sent. -/
  | loggingIn (method role : String)
  | tokenWritten (path : String)
  /-- A renewal succeeded, with this time to live. -/
  | leaseRenewed (ttl : Duration)
  /-- A renewed lease is too short to be renewed again. -/
  | finalWindow (ttl : Duration)
  /-- A renewal failed with `left` to live, and is tried again after `pause`. -/
  | retrying (error : VaultError) (left pause : Duration)
  | loopStopped
deriving DecidableEq

/-- What the keeper reports to its observer. -/
inductive Report
  | loginFailed (error : VaultError)
  | persistFailed (error : KeeperError)
  | tokenPersisted (lease : Lease)
  | tokenRenewed (lease : Lease)
  /-- The watch over the lease ended with an error. -/
  | renewalFailed (error : VaultError)
  /-- The next login waits for this long. -/
  | retryScheduled (pause : Duration)
deriving DecidableEq

/-- One thing that happens. -/
inductive Happening
  /-- A login call begins. -/
  | login
  /-- A call to store the token of a lease begins. -/
  | persist (token : String)
  /-- A renewal call begins. -/
  | renew (token : String) (increment : Duration)
  /-- The observer is told. -/
  | report (r : Report)
  /-- The journal is written to. -/
  | note (n : Note)
  | stopped
deriving DecidableEq

/-- What has happened, in order, each with its moment. -/
abbrev Trace := List (Instant × Happening)

/-- Notes that are written at one moment. -/
def Trace.ofNotes (now : Instant) (notes : List Note) : Trace := notes.map fun n => (now, .note n)

@[simp] theorem Trace.ofNotes_nil (now : Instant) : Trace.ofNotes now [] = [] := rfl

end LeaseKeeper
