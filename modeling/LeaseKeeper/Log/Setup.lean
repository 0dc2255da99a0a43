/-
# Setting up the log

A log writes records or plain lines, through a filter.  At most one log is installed for a program,
and the records of other libraries are forwarded to it once.  The filter is given, or else found in
the environment, where one that cannot be read counts as the usual one; the first fault in the order
filter, forwarding, installation is reported.
-/
import LeaseKeeper.Fault.Keeper
import LeaseKeeper.Log.Filter
import LeaseKeeper.Log.Record
import LeaseKeeper.Settings.Environment

namespace LeaseKeeper
namespace Log

/-- The form of the lines. -/
inductive Form
  /-- Each line is a record. -/
  | records (w : Writer)
  | plain
deriving DecidableEq

/-- A log. -/
structure Sink where
  /-- The form of its lines. -/
  form : Form
  /-- What passes; `none` lets everything pass. -/
  filter : Option Filter
  /-- Whether fields are kept with spans. -/
  storage : Bool
  /-- Whether no line can be written. -/
  isBroken : Bool
deriving DecidableEq

/-- How a log is to be set up. -/
structure Setup where
  /-- The name of the application. -/
  application : String
  /-- Its version. -/
  version : String
  /-- The host on which it runs. -/
  hostname : String
  /-- Whether lines are records. -/
  records : Bool
  /-- The filter that is given. -/
  filter : Option String
deriving DecidableEq

namespace Setup

/-- The variable that asks for records. -/
def recordsVar : String := "JSON_LOG"

/-- The variable of the filter. -/
def filterVar : String := "RUST_LOG"

/-- The filter when none is given. -/
def usualFilter : String := "info"

/-- The setup with the form of its lines found in the environment. -/
def formFrom (s : Setup) (env : Environment) : Setup :=
  { s with records := env.text? recordsVar == some "true" }

/-- The filter of a setup. -/
def chosenFilter (s : Setup) (env : Environment) : Except SetupError Filter :=
  match s.filter with
  | some text =>
    match Filter.parse? text with
    | some filter => .ok filter
    | none => .error (.invalidFilter text)
  | none =>
    .ok (((env.text? filterVar).bind Filter.parse?).getD
      ((Filter.parse? usualFilter).getD Filter.errorsOnly))

/-- The log that is set up with a filter. -/
def sink (s : Setup) (filter : Filter) : Sink :=
  ⟨if s.records then .records ⟨s.application, s.version, s.hostname⟩ else .plain, some filter,
    true, false⟩

end Setup

/-- What is installed in a program. -/
structure Installed where
  /-- Whether the records of other libraries are forwarded. -/
  forwards : Bool
  /-- Whether a log is installed, and which one if it is one of these. -/
  log : Option (Option Sink)
deriving DecidableEq

namespace Installed

/-- Nothing installed. -/
def nothing : Installed := ⟨false, none⟩

/-- The log that is installed. -/
def sink? (i : Installed) : Option Sink := i.log.join

/-- Installs a log; on success the answer says whether its lines are records. -/
def install (i : Installed) (s : Setup) (env : Environment) : Except SetupError Bool × Installed :=
  match s.chosenFilter env with
  | .error e => (.error e, i)
  | .ok filter =>
    if i.forwards then (.error .forwarderTaken, i)
    else
      match i.log with
      | some _ => (.error .logTaken, { i with forwards := true })
      | none => (.ok s.records, ⟨true, some (some (s.sink filter))⟩)

end Installed

end Log
end LeaseKeeper
