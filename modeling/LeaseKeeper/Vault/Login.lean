/-
# Logging in and renewing

A login sends the identity assertion of the moment together with a role; a renewal sends the token
and the seconds that are asked for.  Both are one call, with one verdict on its outcome.
-/
import LeaseKeeper.Http.Exchange
import LeaseKeeper.Vault.Client
import LeaseKeeper.Vault.Response

namespace LeaseKeeper
namespace Vault

/-- The document of a login. -/
def loginDocument (identity role : String) : String :=
  (Json.Value.object [("jwt", .string identity), ("role", .string role)]).text

/-- The document of a renewal. -/
def renewalDocument (increment : Duration) : String :=
  (Json.Value.object [("increment", .ofNat increment.seconds)]).text

/-- The request that a client sends to an endpoint, with a token if one is given. -/
def Client.request (c : Client) (endpoint : String) (token : Option String) (document : String) :
    Except TransportFault Http.Request :=
  match Http.Url.parse? (c.base ++ "/v1/auth/" ++ endpoint) with
  | none => .error (.unbuildable none)
  | some url =>
    if !url.hasHost then .error (.unbuildable (some url.text))
    else if token.all isHeaderValue then
      .ok ⟨.post, url.withoutUser, c.application, token, some document⟩
    else .error (.unbuildable none)

/-- The request of a login. -/
def Client.loginRequest (c : Client) (method identity role : String) :
    Except TransportFault Http.Request :=
  c.request (loginPath method) none (loginDocument identity role)

/-- The request of a renewal. -/
def Client.renewalRequest (c : Client) (token : String) (increment : Duration) :
    Except TransportFault Http.Request :=
  c.request "token/renew-self" (some token) (renewalDocument increment)

/-- The verdict on the outcome of a call, if the call ends. -/
def verdictOn : Http.Outcome → Option (Except VaultError Grant)
  | .answered status body => some (verdict status body)
  | .failed fault => some (.error (.transport fault))
  | .pending => none

/-- Makes a call with a request, if there is one. -/
def attempt (request : Except TransportFault Http.Request) (server : Http.Server) :
    Option (Except VaultError Grant) × Http.Server :=
  match request with
  | .error fault => (some (.error (.transport fault)), server)
  | .ok r =>
    let (outcome, server) := Http.call r server
    (verdictOn outcome, server)

/-- Logs in with an identity assertion. -/
def Client.login (c : Client) (method identity role : String) (server : Http.Server) :
    Option (Except VaultError Grant) × Http.Server :=
  attempt (c.loginRequest method identity role) server

/-- Renews a token. -/
def Client.renew (c : Client) (token : String) (increment : Duration) (server : Http.Server) :
    Option (Except VaultError Grant) × Http.Server :=
  attempt (c.renewalRequest token increment) server

/-- The identity assertion that a file holds, from the content of the file. -/
def identity (path : String) (content : Except IoError (List UInt8)) : Except VaultError String :=
  match content with
  | .error cause => .error (.identityUnavailable path cause)
  | .ok bytes =>
    match Text.ofBytes? bytes with
    | none => .error (.identityUnavailable path .notText)
    | some text => .ok (Text.trimBlank text)

/-- Where an identity assertion is found, and what it is used for. -/
structure Auth where
  /-- The auth method. -/
  method : String
  /-- The role. -/
  role : String
  /-- The file that holds the identity assertion. -/
  identityPath : String
deriving DecidableEq

/-- Logs in with the identity assertion of this moment. -/
def Client.authenticate (c : Client) (auth : Auth) (content : Except IoError (List UInt8))
    (server : Http.Server) : Option (Except VaultError Grant) × Http.Server :=
  match identity auth.identityPath content with
  | .error e => (some (.error e), server)
  | .ok text => c.login auth.method text auth.role server

end Vault
end LeaseKeeper
