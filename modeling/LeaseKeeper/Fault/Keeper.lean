/-
# What can go wrong around a token

The causes for which the keeper fails outside a request: its settings, its token file, its log
and its signals.  An error of a request passes through unchanged in text and in chain.
-/
import LeaseKeeper.Fault.Vault

namespace LeaseKeeper

/-- Why the log could not be set up. -/
inductive SetupError
  /-- Records of other libraries are already forwarded. -/
  | forwarderTaken
  /-- Some log is already installed. -/
  | logTaken
  /-- A directive of the filter cannot be read. -/
  | invalidFilter (directive : String)
deriving DecidableEq

/-- Why settings are refused. -/
inductive ConfigFault
  /-- No address is given. -/
  | addressUnset
  /-- The value of a variable is not a number of seconds. -/
  | notSeconds (name value : String)
  /-- The auth method has no character other than the slash. -/
  | emptyMethod
  | emptyRole
  /-- Some other cause, in words. -/
  | other (text : String)
deriving DecidableEq

/-- Why the keeper failed. -/
inductive KeeperError
  /-- A request failed. -/
  | vault (error : VaultError)
  | homeUnknown
  | notPersisted (path : String) (cause : IoError)
  /-- The settings are refused. -/
  | misconfigured (cause : ConfigFault)
  /-- The log could not be set up. -/
  | logging (cause : SetupError)
  /-- Signals cannot be received. -/
  | signals (cause : IoError)
deriving DecidableEq

/-- The text of a setup error for its reader. -/
def SetupError.message : SetupError → String
  | .forwarderTaken => "log tracer already initialized"
  | .logTaken => "global tracing subscriber already set"
  | .invalidFilter directive => "invalid log filter directive: " ++ directive

/-- The parts of a setup error. -/
def SetupError.debug : SetupError → String
  | .forwarderTaken => "LogTracerAlreadyInitialized"
  | .logTaken => "SubscriberAlreadySet"
  | .invalidFilter directive => "InvalidFilter(" ++ Text.quoted directive ++ ")"

/-- The text of a fault in the settings. -/
def ConfigFault.message : ConfigFault → String
  | .addressUnset => "VAULT_ADDR is not set"
  | .notSeconds name value =>
    name ++ " must be a number of seconds, got " ++ Text.quoted value
  | .emptyMethod => "auth method must not be empty"
  | .emptyRole => "role must not be empty"
  | .other text => text

namespace KeeperError

/-- The text of an error for its reader, on one line. -/
def message : KeeperError → String
  | vault error => error.message
  | homeUnknown => "Home directory could not be resolved"
  | notPersisted path cause => "Failed to write token file " ++ path ++ ": " ++ cause.message
  | misconfigured cause => "Invalid configuration: " ++ cause.message
  | logging cause => "Logger setup failed: " ++ cause.message
  | signals cause => "Signal handler failed: " ++ cause.message

/-- The parts of an error. -/
def debug : KeeperError → String
  | vault error => "Vault(" ++ error.debug ++ ")"
  | homeUnknown => "HomeDirUnavailable"
  | notPersisted path cause =>
    "PersistenceFailure \x7b path: " ++ Text.quoted path ++ ", source: " ++ cause.debug ++ " \x7d"
  | misconfigured cause => "Config(" ++ Text.quoted cause.message ++ ")"
  | logging cause => "Logging(" ++ cause.debug ++ ")"
  | signals cause => "Signal(" ++ cause.debug ++ ")"

/-- The texts of the errors below an error, the nearest first. -/
def sources : KeeperError → List String
  | vault error => error.sources
  | notPersisted _ cause => cause.message :: cause.sources
  | logging cause => [cause.message]
  | signals cause => cause.message :: cause.sources
  | _ => []

@[simp] theorem message_vault (e : VaultError) : (vault e).message = e.message := rfl

@[simp] theorem sources_vault (e : VaultError) : (vault e).sources = e.sources := rfl

end KeeperError
end LeaseKeeper
