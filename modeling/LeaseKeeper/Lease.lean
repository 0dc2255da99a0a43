/-
# Token leases

What an auth endpoint grants, and the lease that such a grant becomes at the moment it is
received.  The debug texts of a lease never show its token.
-/
import LeaseKeeper.Time.Duration
import LeaseKeeper.Text.Shown

namespace LeaseKeeper

/-- What an auth endpoint grants: a token with its terms. -/
structure Grant where
  /-- The token itself. -/
  token : String
  /-- A handle for the token that does not give access. -/
  accessor : Option String
  /-- The names of the policies attached to the token. -/
  policies : List String
  /-- How long the token lives unless it is renewed. -/
  ttl : Duration
  /-- Whether the token can be renewed at all. -/
  renewable : Bool
deriving DecidableEq

/-- A grant together with the moment at which it was received. -/
structure Lease extends Grant where
  /-- The moment from which the time to live counts. -/
  obtained : Instant
deriving DecidableEq

/-- The lease that starts with a grant. -/
def Grant.startingAt (g : Grant) (now : Instant) : Lease := { g with obtained := now }

namespace Lease

/-- The time left before the lease runs out. -/
def remaining (l : Lease) (now : Instant) : Duration := l.ttl.less (now - l.obtained)

@[simp] theorem nanos_remaining (l : Lease) (now : Instant) :
    (l.remaining now).nanos = l.ttl.nanos - (now - l.obtained) := rfl

/-- What stands for the token wherever a lease is shown. -/
def redacted : String := "<redacted>"

/-- The lease on one line. -/
def debug (l : Lease) : String :=
  "Lease \x7b client_token: " ++ Text.quoted redacted
    ++ ", accessor: " ++ (match l.accessor with
        | none => "None"
        | some a => "Some(" ++ Text.quoted a ++ ")")
    ++ ", policies: [" ++ ", ".intercalate (l.policies.map Text.quoted) ++ "]"
    ++ ", lease_duration: " ++ l.ttl.text
    ++ ", renewable: " ++ toString l.renewable ++ " \x7d"

/-- The lease with a line for each part. -/
def pretty (l : Lease) : String :=
  "Lease \x7b\n    client_token: " ++ Text.quoted redacted
    ++ ",\n    accessor: " ++ (match l.accessor with
        | none => "None"
        | some a => "Some(\n        " ++ Text.quoted a ++ ",\n    )")
    ++ ",\n    policies: " ++ (match l.policies with
        | [] => "[]"
        | ps =>
          "[\n" ++ String.join (ps.map fun p => "        " ++ Text.quoted p ++ ",\n") ++ "    ]")
    ++ ",\n    lease_duration: " ++ l.ttl.text
    ++ ",\n    renewable: " ++ toString l.renewable ++ ",\n\x7d"

end Lease
end LeaseKeeper
