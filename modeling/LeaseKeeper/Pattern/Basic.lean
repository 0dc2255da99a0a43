/-
# Patterns

A pattern says which texts fit it.  It is built of sets of characters and of places, one after
another, with choices and repetitions; choices have an order, and so have more or fewer repetitions.
-/
import LeaseKeeper.Pattern.CharSet

namespace LeaseKeeper

/-- A place between two characters.  The end of a line is a line feed; where returns count, a
carriage return is one, too, and so are both together. -/
inductive Place
  | start
  | finish
  | lineStart (returns : Bool)
  | lineFinish (returns : Bool)
  | wordEdge
  | noWordEdge
  | wordStart
  | wordFinish
deriving DecidableEq

namespace Place

/-- Whether there is a part of a word on one side of a place. -/
def isWord (side : Option Char) : Bool := side.any fun c => c.isAlphanum || c == '_'

/-- Whether a place is between these two characters; there are none outside the text. -/
def holds (before after : Option Char) : Place → Bool
  | start => before.isNone
  | finish => after.isNone
  | lineStart false => before.all (· = '\n')
  | lineStart true => before.all (· = '\n') || (before = some '\r' && after ≠ some '\n')
  | lineFinish false => after.all (· = '\n')
  | lineFinish true =>
    after.all (· = '\r') || (after = some '\n' && before ≠ some '\r')
  | wordEdge => isWord before != isWord after
  | noWordEdge => isWord before == isWord after
  | wordStart => !isWord before && isWord after
  | wordFinish => isWord before && !isWord after

/-- Whether a place depends on words. -/
def isOfWords : Place → Bool
  | wordEdge | noWordEdge | wordStart | wordFinish => true
  | _ => false

/-- Whether a place is known to be after this character, whatever comes next. -/
def isClear (before : Option Char) : Place → Bool
  | start => before.isNone
  | lineStart _ => before.all (· = '\n')
  | _ => false

end Place

/-- A pattern. -/
inductive Pattern
  | empty
  /-- A character of a set. -/
  | one (s : CharSet)
  | place (p : Place)
  | next (p q : Pattern)
  | either (p q : Pattern)
  /-- A group with its number. -/
  | group (number : Nat) (p : Pattern)
  /-- A pattern once or not at all; once comes first if it is greedy. -/
  | optional (greedy : Bool) (p : Pattern)
  /-- A pattern at least once; more often comes first if it is greedy. -/
  | oneOrMore (greedy : Bool) (p : Pattern)
deriving DecidableEq

namespace Pattern

/-- Patterns one after another. -/
def ofList : List Pattern → Pattern
  | [] => empty
  | [p] => p
  | p :: rest => next p (ofList rest)

/-- Whether a pattern takes no character. -/
def isStill : Pattern → Bool
  | empty | place _ => true
  | one _ | oneOrMore _ _ => false
  | next p q | either p q => p.isStill && q.isStill
  | group _ p | optional _ p => p.isStill

/-- A pattern at least once; what takes no character is not taken twice. -/
def atLeastOnce (greedy : Bool) (p : Pattern) : Pattern :=
  if p.isStill then p else oneOrMore greedy p

/-- A pattern any number of times. -/
def many (greedy : Bool) (p : Pattern) : Pattern := optional greedy (atLeastOnce greedy p)

end Pattern
end LeaseKeeper
