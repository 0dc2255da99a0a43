/-
# Domain names

A domain name is a list of labels with points between them.  It is brought into one form: every
character is replaced by what stands for it, the text is composed, and labels with characters
outside ASCII are written in ASCII after the mark `xn--`.  A label that comes with that mark has to
stand for one that would be written so.
-/
import LeaseKeeper.Domain.Direction
import LeaseKeeper.Domain.Joining
import LeaseKeeper.Domain.Mapping
import LeaseKeeper.Domain.Punycode

namespace LeaseKeeper
namespace Domain

/-- What labels in ASCII that stand for others begin with. -/
def labelMark : List Char := "xn--".toList

/-- Whether a character is one of ASCII. -/
def isAscii (c : Char) : Bool := c.toNat < 0x80

/-- A text with every character replaced, in composed form. -/
def normal? (cs : List Char) : Option (List Char) :=
  (cs.mapM mapChar?).map fun parts =>
    if cs.all isAscii then parts.flatten else composed parts.flatten

/-- A label: as it is meant, and as it is written. -/
structure Label where
  /-- The label as it is meant. -/
  meant : List Char
  /-- The label in ASCII. -/
  written : List Char

/-- How long a label with characters outside ASCII may be. -/
def greatestLength : Nat := 1000

/-- How long the text may be that stands for such a label. -/
def greatestWrittenLength : Nat := 2000

/-- Whether a label with characters outside ASCII is one. -/
def isSound (meant : List Char) : Bool := meant.length ≤ greatestLength && isWellFormed meant

/-- The label that a text in normal form is. -/
def Label.ofNormal? (cs : List Char) : Option Label :=
  if labelMark.isPrefixOf cs then
    let text := cs.drop labelMark.length
    if greatestWrittenLength < text.length then none
    else
      (Punycode.decode? text).bind fun meant =>
        if !meant.all isAscii && isSound meant && normal? meant == some meant then
          some ⟨meant, cs⟩
        else none
  else if cs.all isAscii then some ⟨cs, cs⟩
  else if isSound cs then some ⟨cs, labelMark ++ Punycode.encode cs⟩
  else none

/-- The one form of a domain name. -/
def name? (cs : List Char) : Option (List Char) := do
  let labels ← (Text.splitOn (· == '.') (← normal? cs)).mapM Label.ofNormal?
  if areOneWay (labels.map Label.meant) then
    return ['.'].intercalate (labels.map Label.written)
  else none

end Domain
end LeaseKeeper
