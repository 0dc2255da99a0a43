/-
# Spans

A span is a stretch of work with a name and fields.  It is made under the span that is current at
that moment and starts with a copy of the fields kept with it.  A span lives as long as its handle
or a living span made under it; to enter it does not keep it alive.  The current span is the one
entered last and not left; if that one has ended, there is none.  To enter a span that is already
entered changes nothing until it is left.
-/
import LeaseKeeper.Log.FieldText
import LeaseKeeper.Log.Record

namespace LeaseKeeper
namespace Log

/-- A span. -/
structure Span where
  /-- Its name. -/
  name : String
  /-- The number of the span that it was made under. -/
  parent : Option Nat
  /-- The fields given to it, as a plain line shows them. -/
  shown : String
  /-- The fields kept with it, those it was made under included. -/
  kept : Stored
  /-- How many keep it alive: its handle and the living spans made under it. -/
  keepers : Nat

/-- All spans, numbered in the order of their making, and those that are entered. -/
structure Spans where
  /-- The spans. -/
  made : List Span
  /-- The numbers of the spans that are entered, the last one first, with whether the span had been
  entered before. -/
  entered : List (Nat × Bool)

namespace Spans

/-- No spans. -/
def none : Spans := ⟨[], []⟩

/-- Whether a span lives. -/
def isAlive (s : Spans) (i : Nat) : Bool := s.made[i]?.any fun span => 0 < span.keepers

/-- The number of the current span. -/
def current? (s : Spans) : Option Nat :=
  ((s.entered.find? (!·.2)).map (·.1)).filter s.isAlive

/-- The current span. -/
def current (s : Spans) : Option Span := s.current?.bind (s.made[·]?)

/-- Keeps a span alive once more. -/
def keep (made : List Span) (i : Nat) : List Span :=
  made.modify i fun span => { span with keepers := span.keepers + 1 }

/-- Makes a span under the current one. -/
def make (s : Spans) (name : String) (fields : List Field) : Spans :=
  let inherited := (s.current.map Span.kept).getD []
  let made := match s.current? with
    | .none => s.made
    | some i => keep s.made i
  { s with
    made := made ++ [⟨name, s.current?, fieldsText fields, Stored.add inherited fields, 1⟩] }

/-- Keeps a span alive no longer; one that has ended does so to the span that it was made under,
which was made before it. -/
def letGo (made : List Span) (i : Nat) : List Span :=
  match made[i]? with
  | .none => made
  | some span =>
    let made := made.set i { span with keepers := span.keepers - 1 }
    match span.parent with
    | .none => made
    | some p => if span.keepers = 1 ∧ p < i then letGo made p else made
termination_by i
decreasing_by omega

/-- Gives up the handle of a span. -/
def close (s : Spans) (i : Nat) : Spans := { s with made := letGo s.made i }

/-- Enters a span. -/
def enter (s : Spans) (i : Nat) : Spans :=
  { s with entered := (i, s.entered.any (·.1 = i)) :: s.entered }

/-- Leaves a span where it was entered last. -/
def leave (s : Spans) (i : Nat) : Spans := { s with entered := s.entered.eraseP (·.1 = i) }

/-- Adds fields to a span. -/
def note (s : Spans) (i : Nat) (fields : List Field) : Spans :=
  { s with made := s.made.modify i fun span =>
      { span with
        shown := moreFieldsText span.shown fields
        kept := Stored.add span.kept fields } }

/-- The current span as a record sees it; without storage no fields are kept with it. -/
def scope (s : Spans) (storage : Bool) : Option Scope :=
  s.current.map fun span => ⟨span.name, if storage then span.kept else []⟩

/-- The spans from one up to the outermost that it was made under, in at most `fuel` steps. -/
def ancestors (s : Spans) : Nat → Option Nat → List Span
  | 0, _ => []
  | _, .none => []
  | fuel + 1, some i =>
    match s.made[i]? with
    | .none => []
    | some span => span :: s.ancestors fuel span.parent

/-- The current span and those that it was made under, the outermost first. -/
def path (s : Spans) : List Span := (s.ancestors s.made.length s.current?).reverse

end Spans
end Log
end LeaseKeeper
