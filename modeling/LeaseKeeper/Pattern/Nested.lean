/-
# How deeply a pattern is nested

A group, a set in brackets and what is repeated are one level deeper than what they hold; so are
things that stand one after another, once there are two of them.
-/

namespace LeaseKeeper
namespace Pattern

/-- Something that has been read, and how deeply it is nested. -/
structure Nested (α : Type) where
  /-- What has been read. -/
  value : α
  /-- How many levels it has. -/
  depth : Nat
deriving DecidableEq

namespace Nested

variable {α β : Type}

/-- Something with nothing in it. -/
def flat (a : α) : Nested α := ⟨a, 0⟩

/-- Something made of one thing, one level deeper. -/
def deeper (f : α → β) (x : Nested α) : Nested β := ⟨f x.value, x.depth + 1⟩

/-- The greatest depth of some things. -/
def depthOf (xs : List (Nested α)) : Nat := (xs.map depth).foldl max 0

/-- Some things taken together. -/
def ofList (f : List α → α) (xs : List (Nested α)) : Nested α :=
  ⟨f (xs.map value), if xs.length < 2 then depthOf xs else depthOf xs + 1⟩

@[simp] theorem depth_deeper (f : α → β) (x : Nested α) : (deeper f x).depth = x.depth + 1 := rfl

end Nested
end Pattern
end LeaseKeeper
