/-
# Settings

Each setting is taken from the builder if it is set there, else from its variable, else from its
default.  What cannot work is refused, and the first fault in the order address, retry interval,
client timeout, auth method, role is the one reported.  A variable whose setting is on the builder
is not read at all.
-/
import LeaseKeeper.Fault.Keeper
import LeaseKeeper.Settings.Environment
import LeaseKeeper.Time.Duration

namespace LeaseKeeper

/-- The settings of a keeper, fixed for its life. -/
structure Settings where
  /-- Where the server is. -/
  address : String
  /-- The auth method, by its mount or its whole login path. -/
  method : String
  /-- The role to log in as. -/
  role : String
  /-- The file that holds the identity assertion. -/
  identityPath : String
  /-- The file for the token; `none` means the one in the home directory. -/
  tokenFile : Option String
  /-- The pause after a failed round. -/
  retryInterval : Duration
  /-- How long a request may take. -/
  clientTimeout : Duration
  /-- The name that requests carry. -/
  application : Option String
deriving DecidableEq

namespace Settings

/-- The variable of the address. -/
def addressVar : String := "VAULT_ADDR"
/-- The variable of the auth method. -/
def methodVar : String := "VAULT_AUTH_METHOD"
/-- The variable of the role. -/
def roleVar : String := "VAULT_ROLE_ID"
/-- The variable of the identity file. -/
def identityPathVar : String := "K8S_JWT_TOKEN_PATH"
/-- The variable of the token file. -/
def tokenFileVar : String := "VAULT_TOKEN_FILE"
/-- The variable of the retry interval. -/
def retryIntervalVar : String := "VAULT_RETRY_INTERVAL"
/-- The variable of the client timeout. -/
def clientTimeoutVar : String := "VAULT_CLIENT_TIMEOUT"

/-- The auth method when none is given. -/
def defaultMethod : String := "kubernetes"
/-- The role when none is given. -/
def defaultRole : String := "app"
/-- The identity file when none is given. -/
def defaultIdentityPath : String := "/var/run/secrets/kubernetes.io/serviceaccount/token"
/-- The pause after a failed round when none is given. -/
def defaultRetryInterval : Duration := .ofSeconds 30
/-- How long a request may take when nothing else is given. -/
def defaultClientTimeout : Duration := .ofSeconds 60

/-- The settings that are given by the program itself. -/
structure Builder where
  /-- Where the server is. -/
  address : Option String := none
  /-- The auth method. -/
  method : Option String := none
  /-- The role to log in as. -/
  role : Option String := none
  /-- The file that holds the identity assertion. -/
  identityPath : Option String := none
  /-- The file for the token. -/
  tokenFile : Option String := none
  /-- The pause after a failed round. -/
  retryInterval : Option Duration := none
  /-- How long a request may take. -/
  clientTimeout : Option Duration := none
  /-- The name that requests carry. -/
  application : Option String := none
deriving DecidableEq

/-- A length of time that is set on the builder, or the number of seconds in its variable, or its
default. -/
def chooseInterval (given : Option Duration) (env : Environment) (name : String)
    (default : Duration) : Except ConfigFault Duration :=
  match given with
  | some d => .ok d
  | none =>
    match env.text? name with
    | none => .ok default
    | some raw =>
      match Seconds.parse? raw with
      | some n => .ok (.ofSeconds n)
      | none => .error (.notSeconds name raw)

/-- The address that is given, if it is not empty. -/
def chooseAddress (given : Option String) (env : Environment) : Except ConfigFault String :=
  match given.or (env.text? addressVar) with
  | none => .error .addressUnset
  | some a => if a = "" then .error .addressUnset else .ok a

/-- The settings that a builder and an environment amount to. -/
def Builder.resolve (b : Builder) (env : Environment) : Except ConfigFault Settings := do
  let address ← chooseAddress b.address env
  let retryInterval ← chooseInterval b.retryInterval env retryIntervalVar defaultRetryInterval
  let clientTimeout ← chooseInterval b.clientTimeout env clientTimeoutVar defaultClientTimeout
  let method := (b.method.or (env.text? methodVar)).getD defaultMethod
  let role := (b.role.or (env.text? roleVar)).getD defaultRole
  if Text.trimSlashes method = "" then throw .emptyMethod
  if role = "" then throw .emptyRole
  return {
    address, method, role, retryInterval, clientTimeout
    identityPath := (b.identityPath.or (env.text? identityPathVar)).getD defaultIdentityPath
    tokenFile := b.tokenFile.or (env.text? tokenFileVar)
    application := b.application }

end Settings
end LeaseKeeper
