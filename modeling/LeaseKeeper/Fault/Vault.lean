/-
# What can go wrong with a token

The causes for which a login or a renewal fails, with the text for the reader, the debug text, and
the chain of the errors below an error.  A failed renewal wraps the reason, so causes can be
nested; the text of a wrapped cause stands at the end of the text around it.
-/
import LeaseKeeper.Fault.Io

namespace LeaseKeeper

/-- Why no complete answer was received. -/
inductive TransportFault
  /-- The request could not be built; the address is given when it could be read. -/
  | unbuildable (url : Option String)
  /-- Nothing, or nothing readable, came back from this address. -/
  | unanswered (url : String)
  /-- The answer followed too many redirections, the last one to this address. -/
  | redirectLimit (url : String)
  /-- The body ended before its announced length. -/
  | bodyCutShort
  /-- Some other cause, in words. -/
  | other (text : String)
deriving DecidableEq

/-- Why a successful answer could not be used. -/
inductive ResponseFault
  /-- The body is not a document of the expected shape. -/
  | unreadable
  | noAuthBlock
  /-- Some other cause, in words. -/
  | other (text : String)
deriving DecidableEq

/-- Why a login or a renewal failed. -/
inductive VaultError
  | addressMissing
  /-- The identity assertion could not be read. -/
  | identityUnavailable (path : String) (cause : IoError)
  /-- No complete answer was received. -/
  | transport (cause : TransportFault)
  /-- The server refused, with a status and its reasons. -/
  | rejected (status : Nat) (errors : List String)
  /-- A successful answer could not be used. -/
  | malformed (cause : ResponseFault)
  | notRenewable
  /-- A watch over a lease gave up. -/
  | renewalFailed (reason : VaultError)
  /-- A watch over a lease ended without saying how. -/
  | watchLost
deriving DecidableEq

/-- " for url (…)", as it follows a text about an address. -/
private def forUrl (url : String) : String := " for url (" ++ url ++ ")"

/-- The text of a transport fault. -/
def TransportFault.message : TransportFault → String
  | .unbuildable none => "builder error"
  | .unbuildable (some url) => "builder error" ++ forUrl url
  | .unanswered url => "error sending request" ++ forUrl url
  | .redirectLimit url => "error following redirect" ++ forUrl url
  | .bodyCutShort => "error decoding response body"
  | .other text => text

/-- The text of a fault in an answer. -/
def ResponseFault.message : ResponseFault → String
  | .unreadable => "Invalid response"
  | .noAuthBlock => "Response has no auth block"
  | .other text => text

namespace VaultError

/-- The text of an error for its reader, on one line. -/
def message : VaultError → String
  | addressMissing => "Vault not detected: VAULT_ADDR not set"
  | identityUnavailable path cause =>
    "Identity assertion unavailable at " ++ path ++ ": " ++ cause.message
  | transport cause => "Vault request error: " ++ cause.message
  | rejected status errors =>
    "Vault rejected request (" ++ toString status ++ "): " ++ "; ".intercalate errors
  | malformed cause => "Malformed Vault response: " ++ cause.message
  | notRenewable => "Lease is not renewable"
  | renewalFailed reason => "Lease renewal failed: " ++ reason.message
  | watchLost => "Lease watcher exited unexpectedly"

/-- The parts of an error. -/
def debug : VaultError → String
  | addressMissing => "VaultNotDetected"
  | identityUnavailable path cause =>
    "IdentityUnavailable \x7b path: " ++ Text.quoted path ++ ", source: " ++ cause.debug ++ " \x7d"
  | transport cause => "Transport(" ++ Text.quoted cause.message ++ ")"
  | rejected status errors =>
    "RemoteRejected \x7b status: " ++ toString status
      ++ ", errors: [" ++ ", ".intercalate (errors.map Text.quoted) ++ "] \x7d"
  | malformed cause => "MalformedResponse(" ++ Text.quoted cause.message ++ ")"
  | notRenewable => "NotRenewable"
  | renewalFailed reason => "RenewalFailure(" ++ reason.debug ++ ")"
  | watchLost => "WatcherExited"

/-- The texts of the errors below an error, the nearest first. -/
def sources : VaultError → List String
  | identityUnavailable _ cause => cause.message :: cause.sources
  | renewalFailed reason => reason.message :: reason.sources
  | _ => []

end VaultError
end LeaseKeeper
