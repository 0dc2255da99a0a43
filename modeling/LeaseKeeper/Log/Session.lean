/-
# A log at work

A log is told of events, of spans and of the records of other libraries, and writes a line for each
event that passes its filter: a record, or a plain line with the level, the open spans with their
fields, the target, and the fields of the event.  A span is named by its handle, and a handle of the
same name takes the place of an earlier one.
-/
import LeaseKeeper.Log.Setup
import LeaseKeeper.Log.Span
import LeaseKeeper.Time.Calendar

namespace LeaseKeeper
namespace Log

/-- A span in a plain line. -/
def spanText (s : Span) : String :=
  s.name ++ (if s.shown.isEmpty then "" else "\x7b" ++ s.shown ++ "\x7d") ++ ":"

/-- The spans of a plain line, with a space after them if there are any. -/
def spansText (path : List Span) : String :=
  if path.isEmpty then "" else String.join (path.map spanText) ++ " "

/-- The plain line of an event, without its time and its end. -/
def line (path : List Span) (e : Event) : String :=
  e.level.label ++ " " ++ spansText path ++ e.target ++ ": " ++ fieldsText e.fields

/-- What a program tells its log. -/
inductive Act
  | event (e : Event)
  /-- A span is made, under a name of its own. -/
  | span (id name target : String) (level : Level) (fields : List Field)
  | enter (id : String)
  | exit (id : String)
  | close (id : String)
  /-- Fields are added to a span. -/
  | record (id : String) (fields : List Field)
  /-- A record of another library. -/
  | forwarded (level : Level) (target text : String)
deriving DecidableEq

/-- A log at work. -/
structure Session where
  /-- The spans. -/
  spans : Spans
  /-- The names of the spans whose handles are held, with their numbers. -/
  held : List (String × Nat)
  /-- The numbers of the spans that directives open, with their gates. -/
  gates : List (Nat × List Gate)
  /-- The ranks up to which opened spans let events pass, the one entered last first. -/
  opened : List Nat
  /-- The lines so far. -/
  lines : List String
  /-- The moment that lines carry; `none` leaves it out. -/
  time : Option Moment

namespace Session

/-- A log that has written nothing. -/
def start : Session := ⟨.none, [], [], [], [], none⟩

/-- Whether an event or span passes the filter. -/
def passes (s : Session) (k : Sink) (site : Site) : Bool :=
  match k.filter with
  | none => true
  | some f => s.opened.any (site.level.rank ≤ ·) || f.passes site

/-- The line of an event. -/
def lineOf (s : Session) (k : Sink) (e : Event) : String :=
  match k.form with
  | .records w =>
    recordLine (record w (s.spans.scope k.storage) (s.time.map Moment.recordText) e)
  | .plain =>
    (match s.time with
      | none => ""
      | some moment => moment.lineText ++ " ") ++ line s.spans.path e ++ "\n"

/-- Writes the line of an event. -/
def write (s : Session) (k : Sink) (e : Event) : Session :=
  if k.isBroken then s else { s with lines := s.lines ++ [s.lineOf k e] }

/-- The names of the fields that a record of another library may have. -/
def forwardedNames : List String :=
  [messageName, "log.target", "log.module_path", "log.file", "log.line"]

/-- The event of a record of another library. -/
def forwardedEvent (level : Level) (target text : String) : Event :=
  .say level "log" text [.of "log.target" (.text target)]

/-- Gives up a handle. -/
def release (s : Session) (id : String) (i : Nat) : Session :=
  { s with spans := s.spans.close i, held := s.held.erase (id, i) }

/-- Makes a span, if it passes or a directive opens it.  The handle that had its name so far is
given up afterwards. -/
def makeSpan (s : Session) (k : Sink) (id name : String) (site : Site) (fields : List Field) :
    Session :=
  let old := s.held.lookup id
  let gates := match k.filter with
    | none => []
    | some f => f.gates site
  let made :=
    if s.passes k site || k.filter.any (·.opens site) then
      let i := s.spans.made.length
      { s with
        spans := s.spans.make name fields
        held := (id, i) :: s.held
        gates := if gates.isEmpty then s.gates else (i, gates.map (Gate.note fields)) :: s.gates }
    else s
  match old with
  | none => made
  | some i => made.release id i

/-- Enters a span. -/
def enter (s : Session) (i : Nat) : Session :=
  { s with
    spans := s.spans.enter i
    opened := ((s.gates.lookup i).map Gate.rankOf).toList ++ s.opened }

/-- Leaves a span; one that is opened ends what the span entered last has let pass. -/
def leave (s : Session) (i : Nat) : Session :=
  { s with
    spans := s.spans.leave i
    opened := if (s.gates.lookup i).isSome then s.opened.tail else s.opened }

/-- Adds fields to a span. -/
def note (s : Session) (i : Nat) (fields : List Field) : Session :=
  { s with
    spans := s.spans.note i fields
    gates := s.gates.map fun (j, gates) =>
      (j, if j = i then gates.map (Gate.note fields) else gates) }

/-- Does something with a span whose handle is held. -/
def withHeld (s : Session) (id : String) (f : Session → Nat → Session) : Session :=
  match s.held.lookup id with
  | none => s
  | some i => f s i

/-- Does what the program tells the log. -/
def act (k : Sink) (s : Session) : Act → Session
  | .event e =>
    if s.passes k ⟨e.target, e.level, none, e.fields.map (·.name)⟩ then s.write k e else s
  | .forwarded level target text =>
    if s.passes k ⟨target, level, none, forwardedNames⟩ then
      s.write k (forwardedEvent level target text)
    else s
  | .span id name target level fields =>
    s.makeSpan k id name ⟨target, level, some name, fields.map (·.name)⟩ fields
  | .enter id => s.withHeld id enter
  | .exit id => s.withHeld id leave
  | .close id => s.withHeld id fun s i => s.release id i
  | .record id fields => s.withHeld id fun s i => s.note i fields

/-- The lines that a log writes about events outside any span, all at one moment. -/
def linesOf (k : Option Sink) (time : Option Moment) (events : List Event) : List String :=
  match k with
  | none => []
  | some k => (events.foldl (fun s e => act k s (.event e)) { start with time }).lines

/-- The lines that a log writes. -/
def run (k : Option Sink) (acts : List Act) : List String :=
  match k with
  | none => []
  | some k => (acts.foldl (act k) start).lines

end Session
end Log
end LeaseKeeper
