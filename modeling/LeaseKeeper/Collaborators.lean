/-
# The collaborators of a keeper

A keeper logs in, stores and renews through others.  Each call is begun at some moment and is
answered at that moment, later, or never; the answer is fixed by the state of the collaborators at
the beginning of the call.  A renewal can also crash, which ends the task that called it.
-/
import LeaseKeeper.Trace

namespace LeaseKeeper

/-- The answer to a call. -/
structure Answer (α : Type) where
  /-- The moment at which it comes. -/
  ready : Instant
  /-- What it says. -/
  value : α
  /-- What is written to the journal just before it is seen. -/
  notes : List Note

/-- A call that has begun. -/
structure Call (α : Type) where
  /-- What was written to the journal as it began. -/
  notes : List Note
  /-- Its answer, if one ever comes. -/
  answer : Option (Answer α)

namespace Call

/-- A call that is never answered. -/
def unanswered {α : Type} : Call α := ⟨[], none⟩

/-- A call that is answered at a given moment. -/
def answered {α : Type} (ready : Instant) (value : α) : Call α := ⟨[], some ⟨ready, value, []⟩⟩

end Call

/-- How a renewal call ends. -/
inductive Renewal
  /-- The lease is renewed on these terms. -/
  | granted (grant : Grant)
  | failed (error : VaultError)
  | crashed
deriving DecidableEq

/-- How a renewal ends, by the verdict on it. -/
def Renewal.ofVerdict : Except VaultError Grant → Renewal
  | .ok grant => .granted grant
  | .error e => .failed e

/-- What a watch over a lease needs: renewals, and numbers drawn at random. -/
structure Renewer (σ : Type) where
  /-- Begins a renewal of a token by an increment. -/
  renew : σ → Instant → String → Duration → Call Renewal × σ
  /-- Draws a number. -/
  draw : σ → Nat × σ

/-- What a keeper needs. -/
structure Collaborators (σ : Type) extends Renewer σ where
  /-- Begins a login. -/
  login : σ → Instant → Call (Except VaultError Grant) × σ
  /-- Begins to store the token of a lease. -/
  persist : σ → Instant → Lease → Call (Except KeeperError Unit) × σ

end LeaseKeeper
