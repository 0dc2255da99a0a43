/-
# Options of patterns

Options such as `(?i)` say how the rest of a group is to be read.  Characters are those of all
scripts unless the option `u` is off.  The sets that letters stand for and the two cases of letters
are those of ASCII, so they are understood only where other scripts are switched off, and there a
set may hold nothing but ASCII.
-/
import LeaseKeeper.Pattern.CharSet
import LeaseKeeper.Text.Blank

namespace LeaseKeeper
namespace Pattern

/-- An option. -/
inductive Flag
  /-- Upper and lower case are alike. -/
  | anyCase
  /-- The marks of start and end hold at lines. -/
  | lines
  /-- A carriage return ends a line, too. -/
  | returns
  /-- A point stands for the end of a line, too. -/
  | wholeText
  /-- What is repeated is repeated as seldom as possible. -/
  | seldom
  /-- Characters are those of all scripts. -/
  | scripts
  /-- White space does not count, nor what follows a number sign in its line. -/
  | spaced
deriving DecidableEq

/-- The letters of the options. -/
def flags : List (Char × Flag) :=
  [('i', .anyCase), ('m', .lines), ('R', .returns), ('s', .wholeText), ('U', .seldom),
   ('u', .scripts), ('x', .spaced)]

/-- The options of some letters, each switched on or off. -/
def switches? (isOn : Bool) (cs : List Char) : Option (List (Flag × Bool)) :=
  cs.mapM fun c => (flags.lookup c).map fun flag => (flag, isOn)

/-- The options in front of a group: those to switch on and, after a hyphen, those to switch off. -/
def switched? (cs : List Char) : Option (List (Flag × Bool)) := do
  let on ← switches? true (cs.takeWhile (· ≠ '-'))
  let off ← match cs.dropWhile (· ≠ '-') with
    | [] => some []
    | [_] => none
    | _ :: off => switches? false off
  let all := on ++ off
  if all.Pairwise (·.1 ≠ ·.1) then some all else none

/-- The options that are on. -/
structure Options where
  /-- Each of them. -/
  on : List Flag

namespace Options

/-- What holds at the start of a pattern. -/
def initial : Options := ⟨[.scripts]⟩

/-- Whether an option is on. -/
def has (o : Options) (flag : Flag) : Bool := o.on.contains flag

/-- The options after some have been switched. -/
def switch (o : Options) (all : List (Flag × Bool)) : Options :=
  ⟨all.foldl (fun on (flag, isOn) => if isOn then flag :: on else on.filter (· ≠ flag)) o.on⟩

/-! ### White space -/

/-- What is left after white space and comments, when one has begun or not. -/
def skipFrom (inComment : Bool) : List Char → List Char
  | [] => []
  | c :: cs =>
    if inComment then skipFrom (c ≠ '\n') cs
    else if Text.isBlank c then skipFrom false cs
    else if c = '#' then skipFrom true cs
    else c :: cs

/-- What is left after what does not count. -/
def skip (o : Options) (cs : List Char) : List Char :=
  if o.has .spaced then skipFrom false cs else cs

/-- The character after a hyphen that decides whether the hyphen stands for itself.  Of a comment
only the sign in front of it is passed over. -/
def afterHyphen? (o : Options) (cs : List Char) : Option Char :=
  if o.has .spaced then
    let shown := match cs.dropWhile Text.isBlank with
      | '#' :: cs => cs.dropWhile Text.isBlank
      | cs => cs
    shown.head?.or cs.head?
  else cs.head?

/-! ### Characters -/

/-- The set of some ranges, or of what is outside. -/
def set? (o : Options) (isOutside : Bool) (ranges : List (Char × Char)) : Option CharSet :=
  if o.has .scripts then
    let s := CharSet.ofRanges false ranges
    if o.has .anyCase then none else some (if isOutside then .outside s else s)
  else if isOutside || ranges.any (0x80 ≤ ·.2.toNat) then none
  else some (.ofRanges (o.has .anyCase) ranges)

/-- The set that a letter stands for, or what is outside. -/
def shorthand? (o : Options) (isOutside : Bool) (ranges : List (Char × Char)) : Option CharSet :=
  if o.has .scripts then none else o.set? isOutside ranges

/-- The set of a character; one from `0x80` on is not written as a byte where other scripts are
switched off. -/
def character? (o : Options) (c : Char) (isByte : Bool) : Option CharSet :=
  if o.has .scripts || c.toNat < 0x80 then o.set? false [(c, c)]
  else if isByte then none
  else some (.single c)

/-- The set of a point. -/
def point? (o : Options) : Option CharSet :=
  let ends := if o.has .wholeText then []
    else if o.has .returns then [('\r', '\r'), ('\n', '\n')]
    else [('\n', '\n')]
  if o.has .scripts then some (.outside (.ofRanges false ends)) else none

end Options
end Pattern
end LeaseKeeper
