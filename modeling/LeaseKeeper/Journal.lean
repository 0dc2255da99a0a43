/-
# The journal

What the program writes about its work, as log events.  Notes come from the parts that do the work,
reports from the keeper; nothing else that happens leaves an event.  An event never holds a token.
Errors and paths are shown as they are, lengths of time in whole seconds.
-/
import LeaseKeeper.Log.Event
import LeaseKeeper.Trace

namespace LeaseKeeper

namespace Journal

/-- A field that shows a text. -/
def shown (name text : String) : Log.Field := .of name (.shown text)

/-- A field with the whole seconds of a length of time. -/
def seconds (name : String) (d : Duration) : Log.Field := .of name (.int d.seconds)

/-- Where notes about leases come from. -/
def watchTarget : String := "vault_client::watcher"

/-- Where notes about logins come from. -/
def loginTarget : String := "vault_client::auth::kubernetes"

/-- Where notes about the token file come from. -/
def fileTarget : String := "vault_token_renewer::token_file"

/-- Where notes about the keeper come from. -/
def keeperTarget : String := "vault_token_renewer::supervisor"

/-- Where reports come from. -/
def reportTarget : String := "vault_token_renewer::observer"

end Journal

open Journal

/-- The event of a note. -/
def Note.event : Note → Log.Event
  | loggingIn method role =>
    .say .debug loginTarget "Logging in to Vault" [shown "auth_method" method, shown "role" role]
  | tokenWritten path => .say .debug fileTarget "Token file written" [shown "path" path]
  | leaseRenewed ttl =>
    .say .debug watchTarget "Token renewed successfully" [seconds "ttl_secs" ttl]
  | finalWindow ttl =>
    .say .debug watchTarget "Lease reached its final renewal window" [seconds "ttl_secs" ttl]
  | retrying error left pause =>
    .say .warn watchTarget "Token renewal failed, will retry"
      [shown "error" error.message, seconds "ttl_secs" left, seconds "retry_in_secs" pause]
  | loopStopped => .say .debug keeperTarget "vault renewal loop stopped" []

/-- The event of a report; `stamp` is the moment of the report in words. -/
def Report.event (stamp : String) : Report → Log.Event
  | loginFailed error =>
    .say .error reportTarget "could not authenticate with vault" [shown "error" error.message]
  | persistFailed error =>
    .say .error reportTarget "could not write auth token" [shown "error" error.message]
  | tokenPersisted lease =>
    .say .info reportTarget "vault token updated"
      [seconds "ttl_secs" lease.ttl, .of "renewable" (.bool lease.renewable),
        .of "accessor" (.text (lease.accessor.getD ""))]
  | tokenRenewed lease =>
    .say .info reportTarget "vault token renewed"
      [seconds "ttl_secs" lease.ttl, shown "renewed_at" stamp]
  | renewalFailed error =>
    .say .error reportTarget "could not renew vault token" [shown "error" error.message]
  | retryScheduled pause =>
    .say .debug reportTarget "next vault login attempt scheduled" [seconds "delay_secs" pause]

/-- The event of what happens, if it leaves one. -/
def Happening.event? (stamp : String) : Happening → Option Log.Event
  | note n => some n.event
  | report r => some (r.event stamp)
  | _ => none

namespace Trace

/-- The events that a trace leaves, in order; `stamp` puts moments into words. -/
def journal (stamp : Instant → String) (t : Trace) : List Log.Event :=
  t.filterMap fun e => e.2.event? (stamp e.1)

/-- A trace without the reports to the observer. -/
def unreported (t : Trace) : Trace :=
  t.filter fun e =>
    match e.2 with
    | .report _ => false
    | _ => true

@[simp] theorem journal_nil (stamp : Instant → String) : journal stamp [] = [] := rfl

@[simp] theorem journal_append (stamp : Instant → String) (t u : Trace) :
    journal stamp (t ++ u) = journal stamp t ++ journal stamp u := by
  simp [journal]

end Trace
end LeaseKeeper
