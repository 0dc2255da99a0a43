/-
# Trees of files

A tree gives a node to each place, which is the list of names on the way from the root: a file with
its content, a directory, or a symbolic link with its target.  The root is a directory of its own
accord.
-/
import LeaseKeeper.Fault.Io

namespace LeaseKeeper
namespace File

/-- A place in a tree: the names on the way from the root. -/
abbrev Place := List String

/-- What can be at a place. -/
inductive Node
  /-- A file with its mode and content. -/
  | file (mode : Nat) (content : List UInt8)
  | dir (mode : Nat)
  | link (target : String)
deriving DecidableEq

/-- The node of each place at which there is one. -/
structure Tree where
  /-- Places with their nodes; the first entry of a place counts. -/
  nodes : List (Place × Node)
deriving DecidableEq

namespace Tree

/-- The mode of the root. -/
def rootMode : Nat := 0o755

/-- What is at a place. -/
def get? (t : Tree) (p : Place) : Option Node :=
  if p = [] then some (.dir rootMode) else t.nodes.lookup p

/-- The tree with a node put at a place. -/
def set (t : Tree) (p : Place) (n : Node) : Tree := ⟨(p, n) :: t.nodes.filter (·.1 != p)⟩

/-- The tree without a place and all places below it. -/
def erase (t : Tree) (p : Place) : Tree := ⟨t.nodes.filter fun e => !p.isPrefixOf e.1⟩

/-- The tree with nothing but its root. -/
def bare : Tree := ⟨[]⟩

@[simp] theorem get?_root (t : Tree) : t.get? [] = some (.dir rootMode) := rfl

theorem get?_set_self (t : Tree) {p : Place} (h : p ≠ []) (n : Node) :
    (t.set p n).get? p = some n := by
  simp [get?, set, h]

theorem lookup_filter_ne {p q : Place} (h : q ≠ p) (l : List (Place × Node)) :
    (l.filter (·.1 != p)).lookup q = l.lookup q := by
  induction l with
  | nil => rfl
  | cons e rest ih =>
    obtain ⟨r, n⟩ := e
    by_cases hr : r = p
    · subst hr
      have hq : (q == r) = false := by simpa using h
      simp [ih, List.lookup_cons, hq]
    · simp [hr, List.lookup_cons, ih]

theorem get?_set_ne (t : Tree) {p q : Place} (h : q ≠ p) (n : Node) :
    (t.set p n).get? q = t.get? q := by
  have : (q == p) = false := by simpa using h
  simp [get?, set, List.lookup_cons, this, lookup_filter_ne h]

end Tree
end File
end LeaseKeeper
