/-
# Directives

A directive says how much is to be logged: a level, and what it holds for.  That may be a target,
the name of a span in brackets, and a field in braces within the brackets, with its value if that
matters.
-/
import LeaseKeeper.Log.Event
import LeaseKeeper.Log.Wanted

namespace LeaseKeeper
namespace Log

/-- What is known of an event or a span before its fields have values. -/
structure Site where
  /-- What part of a program it comes from. -/
  target : String
  /-- How much it matters. -/
  level : Level
  /-- The name of the span; `none` if it is an event. -/
  span : Option String
  /-- The names of its fields. -/
  names : List String

/-- A directive of a filter. -/
structure Directive where
  /-- What targets have to begin with. -/
  target : Option String
  /-- The name that a span must have. -/
  span : Option String
  /-- The field that must be there. -/
  field : Option FieldTest
  /-- The greatest rank that is to be logged. -/
  rank : Nat
deriving DecidableEq

namespace Directive

/-! ### Reading -/

/-- The ranks of the names of levels. -/
def rankNames : List (String × Nat) :=
  [("off", 0), ("error", 1), ("warn", 2), ("info", 3), ("debug", 4), ("trace", 5)]

/-- The rank that a number below six is; a plus sign may stand in front. -/
def rankOfDigits? (cs : List Char) : Option Nat :=
  (Text.digits? (match cs with
    | '+' :: rest => rest
    | cs => cs)).bind fun n => if n < 6 then some n else none

/-- The rank that a text names; an empty text is the rank of errors. -/
def rank? (cs : List Char) : Option Nat :=
  match rankOfDigits? cs with
  | some n => some n
  | none => if cs.isEmpty then some 1 else rankNames.lookup (String.ofList (cs.map Char.toLower))

/-- The rank after an equals sign; nothing after it means that everything is to be logged. -/
def rankAfter? (cs : List Char) : Option Nat := if cs.isEmpty then some 5 else rank? cs

/-- Whether a directive may begin with a character other than a bracket. -/
def mayBegin (c : Char) : Bool := c == '-' || c == ':' || c == '_' || Text.isAlphanumeric c

/-- How far a directive has been read. -/
inductive Part
  /-- Nothing has been read. -/
  | start
  /-- A target or the name of a level. -/
  | target
  /-- The name of a span, which begins at this place. -/
  | span (begins : Nat)
  /-- A field, which begins at this place. -/
  | field (begins : Nat)
  /-- The field is complete. -/
  | afterField
  /-- The span is complete. -/
  | afterSpan
  /-- The name of a level, which begins at this place. -/
  | level (begins : Nat)
deriving DecidableEq

/-- A directive that is being read. -/
structure Draft where
  /-- How far it has been read. -/
  part : Part
  /-- Its target. -/
  target : Option String
  /-- Its span. -/
  span : Option String
  /-- Its field. -/
  field : Option FieldTest

/-- The characters of a text with their places, which are counted in bytes. -/
def placed (cs : List Char) (place : Nat) : List (Char × Nat) :=
  match cs with
  | [] => []
  | c :: rest => (c, place) :: placed rest (place + c.utf8Size)

/-- The characters of a text from one place on. -/
def sliceFrom (cs : List Char) (first : Nat) : List Char :=
  ((placed cs 0).filter fun c => first ≤ c.2).map (·.1)

/-- The characters of a text from one place up to another. -/
def slice (cs : List Char) (first last : Nat) : List Char :=
  ((placed cs 0).filter fun c => first ≤ c.2 ∧ c.2 < last).map (·.1)

/-- Reads the character at place `i`. -/
def Draft.push? (cs : List Char) (d : Draft) (c : Char) (i : Nat) : Option Draft :=
  let since (begins : Nat) : String := String.ofList (slice cs begins i)
  match d.part with
  | .start =>
    if c == '[' then some { d with part := .span (i + 1) }
    else if mayBegin c then some { d with part := .target }
    else none
  | .target =>
    if c == '=' then some { d with part := .level (i + 1), target := some (since 0) }
    else if c == '[' then some { d with part := .span (i + 1), target := some (since 0) }
    else some d
  | .span begins =>
    if c == ']' then some { d with part := .afterSpan, span := some (since begins) }
    else if c.toNat = 0x7b then
      some { d with
        part := .field (i + 1)
        span := if (since begins).isEmpty then none else some (since begins) }
    else some d
  | .field begins =>
    if c.toNat = 0x7d then
      if (since begins).isEmpty then none
      else (FieldTest.parse? (slice cs begins i)).map fun t =>
        { d with part := .afterField, field := some t }
    else some d
  | .afterField => if c == ']' then some { d with part := .afterSpan } else none
  | .afterSpan => if c == '=' then some { d with part := .level (i + 1) } else none
  | .level _ => some d

/-- The directive that a text is.  Blanks around it do not count while it is read; but places are
counted from the first character that is not blank, and yet cut out of the whole text, so a text
with blanks in front of it keeps little of its meaning. -/
def parse? (cs : List Char) : Option Directive := do
  let read ← (placed (Text.trimBoth Text.isBlank cs) 0).foldlM
    (fun d c => Draft.push? cs d c.1 c.2) (⟨.start, none, none, none⟩ : Draft)
  match read.part with
  | .target =>
    match rank? cs with
    | some rank => some ⟨none, none, none, rank⟩
    | none => some ⟨some (String.ofList cs), none, none, 5⟩
  | .level begins =>
    (rankAfter? (sliceFrom cs begins)).map fun rank => ⟨read.target, read.span, read.field, rank⟩
  | .afterSpan => some ⟨read.target, read.span, read.field, 5⟩
  | _ => none

/-! ### Meaning -/

/-- Whether a directive decides by itself: it waits neither for a span of some name nor for a
value. -/
def isPlain (d : Directive) : Bool := d.span.isNone && d.field.all (·.wanted.isNone)

/-- Whether a directive opens spans. -/
def isOpening (d : Directive) : Bool := d.span.isSome || d.field.isSome

/-- Whether a directive holds for a target. -/
def coversTarget (d : Directive) (target : String) : Bool :=
  d.target.all fun p => p.toList.isPrefixOf target.toList

/-- Whether the field of a directive, if it has one, is among these. -/
def coversNames (d : Directive) (names : List String) : Bool :=
  d.field.all fun t => names.contains t.name

/-- Whether a plain directive holds for an event or span; of a span the fields do not count. -/
def covers (d : Directive) (s : Site) : Bool :=
  d.coversTarget s.target && (s.span.isSome || d.coversNames s.names)

/-- Whether a directive opens a span. -/
def opens (d : Directive) (s : Site) : Bool :=
  d.coversTarget s.target && d.span.all (s.span == some ·) && d.coversNames s.names

/-- How long the target of a directive is; none at all is shorter than any. -/
def targetLength (d : Directive) : Nat :=
  match d.target with
  | none => 0
  | some t => t.utf8ByteSize + 1

/-- Whether a directive is at most as specific as another one: the length of the target counts
first, then whether there is a field, and then the order of the fields' names. -/
def isCoarser (d e : Directive) : Bool :=
  d.targetLength < e.targetLength || (d.targetLength == e.targetLength &&
    match d.field, e.field with
    | none, _ => true
    | some _, none => false
    | some s, some t => s.name ≤ t.name)

/-- Whether two directives are about the same. -/
def isAboutSame (d e : Directive) : Bool :=
  d.target == e.target && d.span == e.span && d.field == e.field

end Directive
end Log
end LeaseKeeper
