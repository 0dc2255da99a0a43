/-
# Sets in brackets

A set in brackets has characters, ranges of them, sets that have names and further sets in brackets
as its members.  A caret in front makes it what lies outside, and signs written twice join it with
what follows.
-/
import LeaseKeeper.Pattern.Escape
import LeaseKeeper.Pattern.Nested

namespace LeaseKeeper
namespace Pattern

/-- The set whose name stands after a bracket, between colons, whether it is what is outside, and
the rest. -/
def namedSet? : List Char → Option ((Bool × List (Char × Char)) × List Char)
  | ':' :: cs =>
    let (isOutside, cs) := match cs with
      | '^' :: cs => (true, cs)
      | cs => (false, cs)
    match CharSet.named.lookup (String.ofList (cs.takeWhile (· ≠ ':'))),
        cs.dropWhile (· ≠ ':') with
    | some ranges, ':' :: ']' :: rest => some ((isOutside, ranges), rest)
    | _, _ => none
  | _ => none

/-- A set that is being read: whether it is turned outside, what stood before the last sign that
joins sets, with the meaning of that sign, and its members since then, the last one first. -/
structure SetDraft where
  /-- Whether it is what lies outside. -/
  isOutside : Bool
  /-- What it is joined with, and how. -/
  joined : Option (Nested CharSet × (CharSet → CharSet → CharSet))
  /-- Its members. -/
  members : List (Nested CharSet)

namespace SetDraft

/-- The draft with one more member. -/
def add (d : SetDraft) (s : Nested CharSet) : SetDraft := { d with members := s :: d.members }

/-- All that has been read. -/
def soFar (d : SetDraft) : Nested CharSet :=
  let last := Nested.ofList .ofList d.members.reverse
  match d.joined with
  | none => last
  | some (before, op) => ⟨op before.value last.value, max before.depth last.depth + 1⟩

/-- The draft that goes on with another set to be joined. -/
def join (d : SetDraft) (op : CharSet → CharSet → CharSet) : SetDraft :=
  ⟨d.isOutside, some (d.soFar, op), []⟩

/-- The set, when it is complete; what lies outside has characters of all scripts. -/
def set? (o : Options) (d : SetDraft) : Option (Nested CharSet) :=
  if d.isOutside then if o.has .scripts then some (d.soFar.deeper .outside) else none
  else some (d.soFar.deeper id)

end SetDraft

/-- The hyphens in front, and the rest. -/
def hyphens (o : Options) : Nat → List Char → Nat × List Char
  | 0, cs => (0, cs)
  | fuel + 1, cs =>
    match o.skip cs with
    | '-' :: rest => let (n, rest) := hyphens o fuel rest; (n + 1, rest)
    | cs => (0, cs)

/-- The draft after an opening bracket, and the rest: hyphens in front and a closing bracket in
front of all others are members. -/
def opened? (o : Options) (cs : List Char) : Option (SetDraft × List Char) := do
  let (isOutside, cs) := match o.skip cs with
    | '^' :: cs => (true, cs)
    | cs => (false, cs)
  let (n, cs) := hyphens o (cs.length + 1) cs
  let (first, n, cs) := match n, cs with
    | 0, ']' :: rest => (']', 1, rest)
    | n, cs => ('-', n, cs)
  if n = 0 then return (⟨isOutside, none, []⟩, cs)
  let s ← o.set? false [(first, first)]
  return (⟨isOutside, none, List.replicate n (.flat s)⟩, cs)

/-- A member of a set, and the rest. -/
def member? (o : Options) : List Char → Option (Escape × List Char)
  | [] => none
  | '\\' :: rest => escape? o rest
  | c :: rest => some (.character c false, rest)

/-- The set of a single member. -/
def Escape.set? (o : Options) : Escape → Option CharSet
  | character c _ => o.set? false [(c, c)]
  | set isOutside ranges => o.shorthand? isOutside ranges
  | place _ => none

/-- One member of a set or the members from one up to another, and the rest. -/
def members? (o : Options) (cs : List Char) : Option (CharSet × List Char) := do
  let (first, rest) ← member? o cs
  match o.skip rest with
  | '-' :: more =>
    if [some ']', some '-'].contains (o.afterHyphen? more) then
      return (← first.set? o, '-' :: more)
    match first, ← member? o (o.skip more) with
    | .character first _, (.character last _, rest) =>
      if first ≤ last then return (← o.set? false [(first, last)], rest) else none
    | _, _ => none
  | rest => return (← first.set? o, rest)

/-- A set after its opening bracket, and the rest, in at most `fuel` steps. -/
def bracket? (o : Options) : Nat → SetDraft → List Char → Option (Nested CharSet × List Char)
  | 0, _, _ => none
  | fuel + 1, d, cs =>
    match o.skip cs with
    | [] => none
    | ']' :: rest => (d.set? o).map fun s => (s, rest)
    | '[' :: rest =>
      match namedSet? rest with
      | some ((isOutside, ranges), rest) => do
        bracket? o fuel (d.add (.flat (← o.set? isOutside ranges))) rest
      | none => do
        let (inner, rest) ← opened? o rest
        let (s, rest) ← bracket? o fuel inner rest
        bracket? o fuel (d.add s) rest
    | '&' :: '&' :: rest => bracket? o fuel (d.join .both) rest
    | '-' :: '-' :: rest => bracket? o fuel (d.join .without) rest
    | '~' :: '~' :: rest => bracket? o fuel (d.join .eitherOnly) rest
    | cs => do
      let (s, rest) ← members? o cs
      bracket? o fuel (d.add (.flat s)) rest

end Pattern
end LeaseKeeper
