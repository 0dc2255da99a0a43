/-
# Filters

A filter is a list of directives.  Of the plain ones that hold for an event the most specific one
decides whether it passes, and of two about the same the later one.  The other directives open
spans: a span that is opened is always made, and while it is entered events pass up to the rank of
the directive, once the field has the value that the directive waits for.
-/
import LeaseKeeper.Log.Directive

namespace LeaseKeeper
namespace Log

/-- A filter. -/
abbrev Filter := List Directive

/-- What a directive says about a span that it opens. -/
structure Gate where
  /-- The greatest rank that passes within the span. -/
  rank : Nat
  /-- What the directive still waits for. -/
  missing : Option FieldTest
deriving DecidableEq

namespace Gate

/-- The gate after some fields have got values; a value that has come is not waited for again. -/
def note (fields : List Field) (g : Gate) : Gate :=
  { g with missing := g.missing.filter fun t => !t.isMet fields }

/-- The greatest rank that passes within a span with some gates. -/
def rankOf (gates : List Gate) : Nat :=
  (((gates.filter (·.missing.isNone)).map (·.rank)).max?).getD 0

end Gate

namespace Filter

/-- The filter that lets errors pass and nothing else. -/
def errorsOnly : Filter := [⟨none, none, none, 1⟩]

/-- The filter that a text is: directives with commas between them. -/
def parse? (s : String) : Option Filter :=
  let parts := (Text.splitOn (· == ',') s.toList).filter (!·.isEmpty)
  (parts.mapM Directive.parse?).map fun ds => if ds.isEmpty then errorsOnly else ds

/-- The directives that decide by themselves. -/
def plain (f : Filter) : Filter := f.filter (·.isPlain)

/-- The directives that open spans, of those about the same only the last one. -/
def opening (f : Filter) : Filter :=
  (f.filter (·.isOpening)).foldr (fun d rest =>
    if rest.any d.isAboutSame then rest else d :: rest) []

/-- The greatest rank of a directive that opens spans, even of one that another has replaced. -/
def openingRank (f : Filter) : Nat := (((f.filter (·.isOpening)).map (·.rank)).max?).getD 0

/-- The directive that decides about an event or span. -/
def decider? (f : Filter) (s : Site) : Option Directive :=
  (f.plain.filter (·.covers s)).foldl (fun best d =>
    match best with
    | none => some d
    | some b => if b.isCoarser d then some d else some b) none

/-- Whether an event or span passes outside any opened span. -/
def passes (f : Filter) (s : Site) : Bool := (f.decider? s).any fun d => s.level.rank ≤ d.rank

/-- The gates of a span; it is opened if there are any. -/
def gates (f : Filter) (s : Site) : List Gate :=
  (f.opening.filter (·.opens s)).map fun d =>
    ⟨d.rank, d.field.filter (·.wanted.isSome)⟩

/-- Whether a span is made because a directive opens it. -/
def opens (f : Filter) (s : Site) : Bool :=
  !(f.gates s).isEmpty && s.level.rank ≤ f.openingRank

end Filter
end Log
end LeaseKeeper
