/-
# Sets of characters

What a pattern may say about one character.  Sets are written with ranges, and some have names;
those are sets of ASCII characters.
-/

namespace LeaseKeeper

/-- A set of characters. -/
inductive CharSet
  /-- The characters from one up to another. -/
  | range (first last : Char)
  /-- The characters that are not in a set. -/
  | outside (s : CharSet)
  | union (s t : CharSet)
  | both (s t : CharSet)
deriving DecidableEq

namespace CharSet

/-- Whether a character is in a set. -/
def holds : CharSet → Char → Bool
  | range first last, c => first ≤ c && c ≤ last
  | outside s, c => !s.holds c
  | union s t, c => s.holds c || t.holds c
  | both s t, c => s.holds c && t.holds c

/-- The set of one character. -/
def single (c : Char) : CharSet := range c c

/-- Whether a set is written as one character. -/
def isSingle : CharSet → Bool
  | range first last => first == last
  | _ => false

/-- The set of no character. -/
def empty : CharSet := range 'b' 'a'

/-- The characters of a first set that are not in a second one. -/
def without (s t : CharSet) : CharSet := both s (outside t)

/-- The characters that are in just one of two sets. -/
def eitherOnly (s t : CharSet) : CharSet := union (s.without t) (t.without s)

/-- The union of some sets. -/
def ofList : List CharSet → CharSet
  | [] => empty
  | [s] => s
  | s :: rest => union s (ofList rest)

/-- The letters of a range in the other case. -/
def otherCase (r : Char × Char) : List (Char × Char) :=
  let among (first last : Char) : List (Char × Char) :=
    let first := if first ≤ r.1 then r.1 else first
    let last := if r.2 ≤ last then r.2 else last
    if first ≤ last then [(first, last)] else []
  (among 'a' 'z').map (fun r => (r.1.toUpper, r.2.toUpper))
    ++ (among 'A' 'Z').map fun r => (r.1.toLower, r.2.toLower)

/-- The set of some ranges, if need be without regard to the case of letters. -/
def ofRanges (anyCase : Bool) (ranges : List (Char × Char)) : CharSet :=
  let ranges := if anyCase then ranges.flatMap fun r => r :: otherCase r else ranges
  ofList (ranges.map fun r => range r.1 r.2)

/-- The ranges of decimal digits, of white space and of parts of words. -/
def shorthands : List (Char × List (Char × Char)) :=
  [('d', [('0', '9')]), ('s', [('\t', '\r'), (' ', ' ')]),
   ('w', [('0', '9'), ('A', 'Z'), ('_', '_'), ('a', 'z')])]

/-- The ranges of the sets that have names. -/
def named : List (String × List (Char × Char)) :=
  [("alnum", [('0', '9'), ('A', 'Z'), ('a', 'z')]), ("alpha", [('A', 'Z'), ('a', 'z')]),
   ("ascii", [('\x00', '\x7f')]), ("blank", [('\t', '\t'), (' ', ' ')]),
   ("cntrl", [('\x00', '\x1f'), ('\x7f', '\x7f')]), ("digit", [('0', '9')]),
   ("graph", [('!', '~')]), ("lower", [('a', 'z')]), ("print", [(' ', '~')]),
   ("punct", [('!', '/'), (':', '@'), ('[', '\x60'), ('\x7b', '~')]),
   ("space", [('\t', '\r'), (' ', ' ')]), ("upper", [('A', 'Z')]),
   ("word", [('0', '9'), ('A', 'Z'), ('_', '_'), ('a', 'z')]),
   ("xdigit", [('0', '9'), ('A', 'F'), ('a', 'f')])]

@[simp] theorem holds_single (c d : Char) : (single c).holds d = true ↔ d = c := by
  simp only [single, holds, Bool.and_eq_true, decide_eq_true_eq]
  constructor
  · intro h
    exact Char.le_antisymm h.2 h.1
  · rintro rfl
    exact ⟨Char.le_refl _, Char.le_refl _⟩

example : (ofRanges true [('X', 'b')]).holds 'x' = true := by decide +kernel

end CharSet
end LeaseKeeper
