/-
# Choices between patterns

The choices between single characters are a set.  Choices that start in the same way have their
common start taken out: it is followed once, and the choice comes after it.  So the ways through a
common start come first in the order, and the choices second.  Characters next to each other stay
together in this.
-/
import LeaseKeeper.Pattern.Basic

namespace LeaseKeeper
namespace Pattern

/-- What stands one after another in a pattern. -/
def parts : Pattern → List Pattern
  | empty => []
  | next p q => p.parts ++ q.parts
  | p => [p]

/-- What a pattern chooses from. -/
def choices : Pattern → List Pattern
  | either p q => p.choices ++ q.choices
  | p => [p]

/-- Whether a pattern is written as one character. -/
def isCharacter : Pattern → Bool
  | one s => s.isSingle
  | _ => false

/-- What stands one after another in a pattern, with characters next to each other as one. -/
def runs (p : Pattern) : List (List Pattern) :=
  p.parts.splitBy fun p q => p.isCharacter && q.isCharacter

/-- The set of a pattern that is a single character of a set. -/
def characterSet? (p : Pattern) : Option CharSet :=
  match p.parts with
  | [one s] => some s
  | _ => none

/-- How far two lists agree. -/
def agreement {α : Type} [DecidableEq α] : List α → List α → Nat
  | a :: as, b :: bs => if a = b then agreement as bs + 1 else 0
  | _, _ => 0

/-- How many runs all patterns start with in common; a pattern that is a single run has none. -/
def commonStart (ps : List Pattern) : Nat :=
  match ps.map runs with
  | [] => 0
  | first :: rest =>
    if (first :: rest).any (·.length < 2) then 0
    else (rest.map (agreement first)).foldl min first.length

/-- One of some patterns, the first ones first. -/
def firstOf : List Pattern → Pattern
  | [] => one .empty
  | [p] => p
  | p :: rest => either p (firstOf rest)

/-- One of some patterns: a set, if each is a character of one. -/
def anyOf (ps : List Pattern) : Pattern :=
  match ps.mapM characterSet? with
  | some sets => one (.ofList sets)
  | none => firstOf ps

/-- One of some patterns after what all start with in common. -/
def oneOf (ps : List Pattern) : Pattern :=
  let all := ps.flatMap choices
  match commonStart all with
  | 0 => anyOf all
  | n + 1 =>
    let start := ((all.head?.map runs).getD []).take (n + 1)
    let rests := all.map fun p => ofList ((p.runs.drop (n + 1)).flatten)
    ofList (start.flatten ++ [anyOf (rests.flatMap choices)])

end Pattern
end LeaseKeeper
