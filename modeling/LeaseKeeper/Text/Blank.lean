/-
# Texts trimmed and cut

The white space of Unicode is a fixed set of 25 characters.  Trimming takes the characters with a
given property from both ends of a text and leaves the rest as it is.  To cut a text at each of the
characters with a given property makes one part more than there are such characters, and the parts
hold all the others in order.
-/

namespace LeaseKeeper
namespace Text

/-- The characters with the property White_Space. -/
def isBlank (c : Char) : Bool :=
  let n := c.toNat
  (9 ≤ n && n ≤ 13) || n == 0x20 || n == 0x85 || n == 0xa0 || n == 0x1680
    || (0x2000 ≤ n && n ≤ 0x200a) || n == 0x2028 || n == 0x2029 || n == 0x202f
    || n == 0x205f || n == 0x3000

/-- A list without the members at its two ends that satisfy `p`. -/
def trimBoth {α : Type} (p : α → Bool) (l : List α) : List α :=
  ((l.dropWhile p).reverse.dropWhile p).reverse

/-- A list without the members at its end that satisfy `p`. -/
def trimEnd {α : Type} (p : α → Bool) (l : List α) : List α :=
  (l.reverse.dropWhile p).reverse

/-- A list cut at every member that satisfies `p`. -/
def splitOn {α : Type} (p : α → Bool) (l : List α) : List (List α) :=
  l.foldr (fun a parts =>
    if p a then [] :: parts
    else
      match parts with
      | [] => [[a]]
      | part :: rest => (a :: part) :: rest) [[]]

/-- A text without the white space at its two ends. -/
def trimBlank (s : String) : String := String.ofList (trimBoth isBlank s.toList)

/-- A text without the slashes at its two ends. -/
def trimSlashes (s : String) : String := String.ofList (trimBoth (· == '/') s.toList)

@[simp] theorem trimBoth_nil {α : Type} (p : α → Bool) : trimBoth p [] = [] := rfl

@[simp] theorem toList_trimBlank (s : String) :
    (trimBlank s).toList = trimBoth isBlank s.toList := by
  simp [trimBlank]

@[simp] theorem toList_trimSlashes (s : String) :
    (trimSlashes s).toList = trimBoth (· == '/') s.toList := by
  simp [trimSlashes]

end Text
end LeaseKeeper
