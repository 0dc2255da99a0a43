/-
# Events and levels

An event has a level, a target, which says what part of a program it comes from, and fields.
-/
import LeaseKeeper.Log.Value

namespace LeaseKeeper
namespace Log

/-- How much an event matters. -/
inductive Level
  | error
  | warn
  | info
  | debug
  | trace
deriving DecidableEq

namespace Level

/-- The name of a level in lower case. -/
def name : Level → String
  | error => "error"
  | warn => "warn"
  | info => "info"
  | debug => "debug"
  | trace => "trace"

/-- The name of a level in upper case, to the right of five places. -/
def label : Level → String
  | error => "ERROR"
  | warn => " WARN"
  | info => " INFO"
  | debug => "DEBUG"
  | trace => "TRACE"

/-- How many levels matter at least as much. -/
def rank : Level → Nat
  | error => 1
  | warn => 2
  | info => 3
  | debug => 4
  | trace => 5

end Level

/-- An event. -/
structure Event where
  /-- How much it matters. -/
  level : Level
  /-- What part of a program it comes from. -/
  target : String
  /-- The source file, if known. -/
  file : Option String
  /-- The line in the source file, if known. -/
  line : Option Nat
  /-- Its fields in order. -/
  fields : List Field
deriving DecidableEq

/-- An event with a message and further fields. -/
def Event.say (level : Level) (target message : String) (fields : List Field) : Event :=
  ⟨level, target, none, none, .of messageName (.shown message) :: fields⟩

end Log
end LeaseKeeper
