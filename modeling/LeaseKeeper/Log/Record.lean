/-
# Records

A record is one object for one event.  The base members cannot be overridden: no field of an event or
span may take a reserved name.  To them come the fields of the event, and those of the current span
whose names the event does not use.  The members stand in the order of their names, and a record is
written on a line of its own.
-/
import LeaseKeeper.Log.Event

namespace LeaseKeeper
namespace Log

/-- Fields under their names, each name once. -/
abbrev Stored := List (String × Json.Value String)

/-- The fields with one more; a later one of the same name takes the place of the earlier one. -/
def Stored.put (s : Stored) (key : String) (v : Json.Value String) : Stored :=
  if s.any (·.1 = key) then s.map fun e => if e.1 = key then (key, v) else e
  else s ++ [(key, v)]

/-- The fields with one more, if it has a value and is kept. -/
def Stored.addField (s : Stored) (f : Field) : Stored :=
  match f.value with
  | none => s
  | some v =>
    match v.key? f.name with
    | none => s
    | some key => s.put key v.json

/-- The fields with those of a list added in order. -/
def Stored.add (s : Stored) (fields : List Field) : Stored := fields.foldl Stored.addField s

/-- The fields in the order of their names. -/
def Stored.sorted (s : Stored) : Stored := s.mergeSort fun a b => decide (a.1 ≤ b.1)

/-- The names that no field may take. -/
def reserved : List String :=
  ["timestamp", "level", "target", "message", "application", "version", "hostname", "file",
   "line", "span"]

/-- Who writes the records. -/
structure Writer where
  /-- The name of the application. -/
  application : String
  /-- Its version. -/
  version : String
  /-- The host on which it runs. -/
  hostname : String
deriving DecidableEq

/-- The current span as a record sees it. -/
structure Scope where
  /-- The name of the span. -/
  name : String
  /-- The fields that are kept with the span. -/
  fields : Stored

/-- The message of an event: its field of that name if it is a text, else its target. -/
def message (target : String) (fields : Stored) : String :=
  match fields.lookup messageName with
  | some (.string s) => s
  | _ => target

/-- A member that is there only if it is known. -/
def known (name : String) (v : Option (Json.Value String)) : List (String × Json.Value String) :=
  match v with
  | none => []
  | some v => [(name, v)]

/-- The base members of a record. -/
def base (w : Writer) (e : Event) (scope : Option Scope) (timestamp : Option String)
    (fields : Stored) : Stored :=
  known "timestamp" (timestamp.map .string)
    ++ [("level", .string e.level.name), ("target", .string e.target),
      ("message", .string (message e.target fields)), ("application", .string w.application),
      ("version", .string w.version), ("hostname", .string w.hostname)]
    ++ known "file" (e.file.map .string)
    ++ known "line" (e.line.map .ofNat)
    ++ known "span" (scope.map fun s => .string s.name)

/-- The fields whose names are free. -/
def unreserved (fields : Stored) : Stored := fields.filter fun f => !reserved.contains f.1

/-- The members of the record of an event, the base members first. -/
def gather (w : Writer) (scope : Option Scope) (timestamp : Option String) (e : Event) : Stored :=
  let fields := Stored.add [] e.fields
  let own := unreserved fields
  let inherited := (unreserved ((scope.map Scope.fields).getD [])).filter fun f =>
    !own.any (·.1 = f.1)
  base w e scope timestamp fields ++ own ++ inherited

/-- The members of the record of an event. -/
def record (w : Writer) (scope : Option Scope) (timestamp : Option String) (e : Event) : Stored :=
  (gather w scope timestamp e).sorted

/-- A record on a line of its own. -/
def recordLine (members : Stored) : String := (Json.Value.object members).text ++ "\n"

end Log
end LeaseKeeper
