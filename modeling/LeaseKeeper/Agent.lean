/-
# The agent

An agent is a keeper's equipment, wired from settings: a client, the identity to log in with, and
the file for the token.  The program around it sets up the log, reads the settings, says what it is
about to do, and runs the agent until a signal comes.  A program that cannot start says why, in its
log or on its way out.
-/
import LeaseKeeper.Journal
import LeaseKeeper.Keeper.Machine
import LeaseKeeper.Log.Session
import LeaseKeeper.Settings
import LeaseKeeper.TokenFile
import LeaseKeeper.Vault.Login

namespace LeaseKeeper

/-- What a keeper works with. -/
structure Agent where
  /-- The client of the server. -/
  client : Vault.Client
  /-- What the agent logs in with. -/
  auth : Vault.Auth
  /-- Where the token is kept. -/
  store : TokenFile
  /-- How the keeper works. -/
  plan : Keeper.Plan
  /-- How long a call may take. -/
  timeout : Duration
deriving DecidableEq

/-- A signal that asks the program to end. -/
inductive Signal
  | terminate
  | interrupt
deriving DecidableEq

namespace Agent

/-- Where the token file is by these settings. -/
def storeOf (s : Settings) : TokenFile :=
  match s.tokenFile with
  | none => .inHome
  | some path => .at path

/-- The agent for settings; leases are watched with drawn windows. -/
def ofSettings (s : Settings) : Except KeeperError Agent :=
  match Vault.Client.build (some s.address) s.application .empty with
  | .error e => .error (.vault e)
  | .ok client =>
    .ok {
      client
      auth := ⟨s.method, s.role, s.identityPath⟩
      store := storeOf s
      plan := ⟨s.retryInterval, ⟨none, none⟩⟩
      timeout := s.clientTimeout }

end Agent

namespace Program

/-- The name under which the program writes records. -/
def name : String := "vault-token-renewer"

/-- The version of the program. -/
def version : String := "0.1.0"

/-- Where the events of the program itself come from. -/
def target : String := "vault_token_renewer"

/-- Where events about signals come from. -/
def signalTarget : String := "vault_token_renewer::shutdown"

/-- The event of a program that is about to run an agent. -/
def starting (s : Settings) : Log.Event :=
  .say .info target "starting vault authenticator"
    [Journal.shown "vault_addr" s.address, Journal.shown "auth_method" s.method,
      Journal.shown "role" s.role, Journal.shown "jwt_path" s.identityPath]

/-- The event of a program that cannot start. -/
def cannotStart (e : KeeperError) : Log.Event :=
  .say .error target "unable to start vault authenticator" [Journal.shown "error" e.message]

/-- The event of a signal. -/
def received : Signal → Log.Event
  | .terminate => .say .info signalTarget "Received SIGTERM, initiating shutdown" []
  | .interrupt => .say .info signalTarget "Received Ctrl+C, initiating shutdown" []

/-- What a program that fails says on its way out. -/
def lastWords (e : KeeperError) : String := "Error: " ++ e.debug

/-- The start of the program. -/
structure Launch where
  /-- The log, if one was set up. -/
  log : Option Log.Sink
  /-- What is written to it at once. -/
  events : List Log.Event
  /-- The agent that will run, or why there is none. -/
  agent : Except KeeperError Agent

/-- How the log of the program is set up. -/
def setup (env : Environment) (hostname : String) : Log.Setup :=
  (Log.Setup.mk name version hostname true none).formFrom env

/-- Starts the program in an environment, on a host. -/
def launch (env : Environment) (hostname : String) : Launch :=
  match Log.Installed.nothing.install (setup env hostname) env with
  | (.error e, installed) => ⟨installed.sink?, [], .error (.logging e)⟩
  | (.ok _, installed) =>
    match Settings.Builder.resolve {} env with
    | .error fault =>
      ⟨installed.sink?, [cannotStart (.misconfigured fault)], .error (.misconfigured fault)⟩
    | .ok settings => ⟨installed.sink?, [starting settings], Agent.ofSettings settings⟩

end Program
end LeaseKeeper
