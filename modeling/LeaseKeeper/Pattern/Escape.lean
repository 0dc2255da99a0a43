/-
# Backslashes in patterns

A backslash takes a sign's meaning away, or gives a letter one.
-/
import LeaseKeeper.Pattern.Basic
import LeaseKeeper.Pattern.Reading
import LeaseKeeper.Text.Digits

namespace LeaseKeeper
namespace Pattern

/-- What stands after a backslash. -/
inductive Escape
  /-- A character, perhaps written as a byte. -/
  | character (c : Char) (isByte : Bool)
  /-- The set of some ranges, or what is outside. -/
  | set (isOutside : Bool) (ranges : List (Char × Char))
  | place (p : Place)
deriving DecidableEq

/-- The characters that letters after a backslash mean. -/
def controls : List (Char × Char) :=
  [('a', '\x07'), ('f', '\x0c'), ('n', '\n'), ('r', '\r'), ('t', '\t'), ('v', '\x0b')]

/-- The places that are written with a backslash. -/
def places : List (Char × Place) :=
  [('A', .start), ('z', .finish), ('b', .wordEdge), ('B', .noWordEdge), ('<', .wordStart),
   ('>', .wordFinish)]

/-- How many digits of a code point stand after a letter. -/
def codeLengths : List (Char × Nat) := [('x', 2), ('u', 4), ('U', 8)]

/-- Some digits in base sixteen, and the rest. -/
def digits? (o : Options) : Nat → List Char → Option (List Char × List Char)
  | 0, cs => some ([], cs)
  | n + 1, cs =>
    match o.skip cs with
    | [] => none
    | c :: rest => (digits? o n rest).map fun (digits, rest) => (c :: digits, rest)

/-- The character with a code point in base sixteen. -/
def coded? (digits : List Char) : Option Char :=
  (Text.hexDigits? digits).bind fun n => if n.isValidChar then some (Char.ofNat n) else none

/-- Whether a character stands for itself after a backslash. -/
def isSign (c : Char) : Bool := c.toNat < 0x80 && !c.isAlphanum

/-- What stands after a backslash, and the rest. -/
def escape? (o : Options) : List Char → Option (Escape × List Char)
  | [] => none
  | c :: rest =>
    match codeLengths.lookup c with
    | some n => do
      let (digits, rest) ← digits? o n rest
      return (.character (← coded? digits) (c = 'x'), rest)
    | none =>
      let escape : Option Escape :=
        ((controls.lookup c).map fun c => .character c false)
        <|> ((CharSet.shorthands.lookup c).map fun ranges => .set false ranges)
        <|> ((CharSet.shorthands.find? (·.1.toUpper = c)).map fun s => .set true s.2)
        <|> ((places.lookup c).map .place)
        <|> if isSign c then some (.character c false) else none
      escape.map fun e => (e, rest)

end Pattern
end LeaseKeeper
