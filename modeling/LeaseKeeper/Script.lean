/-
# Collaborators that follow a script

Each kind of call takes its answers from a list, in order.  An answer comes at once or after a
delay in milliseconds.  When its list is used up, a login or a renewal is never answered, and a
token is stored at once.
-/
import LeaseKeeper.Keeper.Timeline
import LeaseKeeper.Watch.Session

namespace LeaseKeeper

/-- An answer of a script. -/
structure Script.Line (α : Type) where
  /-- How many milliseconds the answer takes. -/
  delay : Nat
  /-- What it says. -/
  value : α

/-- The answers that are left, and the numbers that are still to be drawn. -/
structure Script where
  /-- The answers to logins. -/
  logins : List (Script.Line (Except VaultError Grant))
  /-- The answers to tokens that are to be stored; `none` is no answer. -/
  persists : List (Script.Line (Option (Except KeeperError Unit)))
  /-- The answers to renewals, by the token that is renewed. -/
  renewals : List (Script.Line (String → Renewal))
  /-- The numbers to be drawn; zero when they are used up. -/
  draws : List Nat

namespace Script

/-- The call that a line answers. -/
def Line.call {α : Type} (l : Line α) (now : Instant) : Call α :=
  .answered (now + l.delay * Instant.milli) l.value

/-- A renewal by the script. -/
def renew (s : Script) (now : Instant) (token : String) : Call Renewal × Script :=
  match s.renewals with
  | [] => (.unanswered, s)
  | l :: rest => (Line.call ⟨l.delay, l.value token⟩ now, { s with renewals := rest })

/-- A login by the script. -/
def login (s : Script) (now : Instant) : Call (Except VaultError Grant) × Script :=
  match s.logins with
  | [] => (.unanswered, s)
  | l :: rest => (l.call now, { s with logins := rest })

/-- A token stored by the script. -/
def persist (s : Script) (now : Instant) : Call (Except KeeperError Unit) × Script :=
  match s.persists with
  | [] => (.answered now (.ok ()), s)
  | l :: rest =>
    (match l.value with
      | none => .unanswered
      | some value => Line.call ⟨l.delay, value⟩ now, { s with persists := rest })

/-- A number drawn by the script. -/
def draw (s : Script) : Nat × Script := (s.draws.headD 0, { s with draws := s.draws.tail })

/-- The collaborators that follow a script. -/
def collaborators : Collaborators Script where
  renew s now token _ := s.renew now token
  draw := draw
  login := login
  persist s now _ := s.persist now

/-- More steps than a run by the script can take: every round takes a login, and every renewal
takes an answer. -/
def fuel (s : Script) : Nat := 20 * (s.logins.length + 1) + 10 * (s.renewals.length + 1)

end Script

/-- What the owner of a watch gets for a list of acts, with the session after each. -/
def Script.watch (s : Script) (lease : Lease) (config : Watch.Config) (acts : List Watch.Act) :
    List (Watch.Result × Watch.Session Script) :=
  let go := fun (acc : List (Watch.Result × Watch.Session Script) × Watch.Session Script) act =>
    let (result, session) := acc.2.act Script.collaborators.toRenewer s.fuel act
    (acc.1 ++ [(result, session)], session)
  (acts.foldl go ([], .start lease config s)).1

/-- A keeper whose collaborators follow the script, on the clock until a deadline. -/
def Script.keep (s : Script) (plan : Keeper.Plan) (before : List Keeper.Control)
    (controls : List (Instant × Keeper.Control)) (deadline : Instant) : Keeper Script :=
  Keeper.runUnder collaborators plan s.fuel before controls deadline (.start s)

end LeaseKeeper
