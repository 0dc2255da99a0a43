/-
# Which texts fit a pattern

A pattern is laid out as a net of nodes.  The ways through the net are followed side by side, in
order, and the first one that comes to the finish decides: a text fits a pattern if that is at the
end of the text.

Between two characters each node is entered at most once, so that a way ends where an earlier one
has been.  A place that depends on the character to come is left open until that one is known; then
the ways start anew from the nodes that they have come to.
-/
import LeaseKeeper.Pattern.Basic

namespace LeaseKeeper
namespace Pattern

/-- A node of a net; the others are named by their numbers. -/
inductive Node
  /-- A character of a set has to come. -/
  | character (s : CharSet) (next : Nat)
  /-- This has to be the place. -/
  | place (p : Place) (next : Nat)
  /-- There is a choice, the first one first. -/
  | fork (nexts : List Nat)
  | finish
deriving DecidableEq

/-- A net of nodes. -/
abbrev Net := Array Node

/-! ### Layout -/

/-- Two nodes in order. -/
def inOrder (greedy : Bool) (a b : Nat) : List Nat := if greedy then [a, b] else [b, a]

/-- A net with a pattern in front of a node, and the node that the pattern starts with. -/
def layOut (net : Net) (next : Nat) : Pattern → Net × Nat
  | empty => (net, next)
  | one s => (net.push (.character s next), net.size)
  | place p => (net.push (.place p next), net.size)
  | .next p q =>
    let (net, start) := layOut net next q
    layOut net start p
  | either p q =>
    let (net, a) := layOut net next p
    let (net, b) := layOut net next q
    (net.push (.fork [a, b]), net.size)
  | group _ p => layOut net next p
  | optional greedy p =>
    let (net, start) := layOut net next p
    (net.push (.fork (inOrder greedy start next)), net.size)
  | oneOrMore greedy p =>
    let again := net.size
    let (net, start) := layOut (net.push (.fork [])) again p
    (net.setIfInBounds again (.fork (inOrder greedy start next)), start)

/-- The net of a pattern, and the node that it starts with. -/
def net (p : Pattern) : Net × Nat := layOut #[.finish] 0 p

/-! ### Ways -/

namespace Net

/-- The nodes that a node leads to without a character, where some places are. -/
def onward (net : Net) (isHere : Place → Bool) (i : Nat) : List Nat :=
  match net[i]? with
  | some (.place p j) => if isHere p then [j] else []
  | some (.fork nexts) => nexts
  | _ => []

/-- The nodes that the ways from `start` come to, in order, after those of `found`, of which the
last one stands first.  Each step finds one more node, so a net takes no more steps than it has
nodes. -/
def gather (net : Net) (isHere : Place → Bool) : Nat → List Nat → List Nat → List Nat
  | 0, found, _ => found.reverse
  | count + 1, found, start =>
    match start.dropWhile found.contains with
    | [] => found.reverse
    | i :: rest => net.gather isHere count (i :: found) (net.onward isHere i ++ rest)

/-- The nodes that the ways from some nodes come to, in order, but for forks. -/
def reached (net : Net) (isHere : Place → Bool) (start : List Nat) : List Nat :=
  (net.gather isHere net.size [] start).filter fun i =>
    match net[i]? with
    | some (.fork _) => false
    | _ => true

/-- Whether a node is a place that is certain only now that the next character is known. -/
def isSettled (net : Net) (before next : Option Char) (i : Nat) : Bool :=
  match net[i]? with
  | some (.place p _) => p.holds before next && !p.isClear before
  | _ => false

/-- The nodes that ways between two characters come to, in order. -/
def between (net : Net) (before next : Option Char) (start : List Nat) : List Nat :=
  let first := net.reached (Place.isClear before) start
  if first.any (net.isSettled before next) then net.reached (Place.holds before next) first
  else first

/-- Where a node leads to with a character. -/
def onwardWith (net : Net) (c : Char) (i : Nat) : Option Nat :=
  match net[i]? with
  | some (.character s j) => if s.holds c then some j else none
  | _ => none

/-- Whether a node is the finish. -/
def isFinish (net : Net) (i : Nat) : Bool := net[i]? = some .finish

/-- Where some nodes lead to with a character; the finish ends all that come after it. -/
def after (net : Net) (c : Char) (nodes : List Nat) : List Nat :=
  (nodes.takeWhile fun i => !net.isFinish i).filterMap (net.onwardWith c)

/-- Whether the ways from some nodes come to the finish just at the end of a text. -/
def fitsFrom (net : Net) (start : List Nat) (before : Option Char) (cs : List Char) : Bool :=
  let nodes := net.between before cs.head? start
  match cs with
  | [] => nodes.any net.isFinish
  | c :: rest => net.fitsFrom (net.after c nodes) (some c) rest

end Net

/-- Whether a text fits a pattern. -/
def fits (p : Pattern) (text : String) : Bool :=
  p.net.1.fitsFrom [p.net.2] none text.toList

end Pattern
end LeaseKeeper
