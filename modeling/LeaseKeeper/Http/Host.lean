/-
# Hosts in addresses

The host of a web address is a number address in brackets with colons, a number address with
points, or a domain name.  All are brought into one form: a name in ASCII and lower case, four
decimal parts, or eight groups in base sixteen with the longest run of zero groups left out.
-/
import LeaseKeeper.Domain.Name
import LeaseKeeper.Http.Escape

namespace LeaseKeeper
namespace Http

namespace Host

/-- A part of an address with points: decimal, octal after a zero, or in base sixteen after `0x`. -/
def part? : List Char → Option Nat
  | [] => none
  | '0' :: 'x' :: rest => Text.hexDigits? rest
  | '0' :: 'X' :: rest => Text.hexDigits? rest
  | ['0'] => some 0
  | '0' :: rest => Text.digitsIn? 8 rest
  | cs => Text.digitsIn? 10 cs

/-- The parts of a name, without an empty one at the end. -/
def labels (cs : List Char) : List (List Char) :=
  match (Text.splitOn (· == '.') cs).reverse with
  | [] :: rest@(_ :: _) => rest.reverse
  | ls => ls.reverse

/-- Whether the last part of a name is a number, so that the name has to be an address. -/
def endsInNumber (cs : List Char) : Bool :=
  match (labels cs).getLast? with
  | none => false
  | some [] => false
  | some l => l.all (fun c => (Text.digit? c).isSome) || (part? l).isSome

/-- The 32 bits of an address with points: all parts but the last are bytes, and the last one fills
what is left. -/
def pointed? (cs : List Char) : Option Nat := do
  let parts ← (labels cs).mapM part?
  if parts.length > 4 then none
  else
    match parts.reverse with
    | [] => none
    | last :: rest =>
      if rest.any (· > 255) || 1 <<< (8 * (4 - rest.length)) ≤ last then none
      else some (rest.reverse.zipIdx.foldl (fun acc (p, i) => acc + p <<< (8 * (3 - i))) last)

/-- Four bytes with points between them. -/
def pointedText (n : Nat) : String :=
  ".".intercalate ([3, 2, 1, 0].map fun i => Nat.repr (n >>> (8 * i) % 256))

/-- A group of at most four digits in base sixteen. -/
def group? (cs : List Char) : Option Nat :=
  if cs.isEmpty || cs.length > 4 then none else Text.hexDigits? cs

/-- A byte in decimal digits, without a zero in front. -/
def byte? (cs : List Char) : Option Nat :=
  match cs with
  | [] => none
  | '0' :: _ :: _ => none
  | cs => (Text.digits? cs).bind fun n => if n < 256 then some n else none

/-- Two groups that are written as four bytes with points. -/
def tail? (cs : List Char) : Option (List Nat) := do
  match ← (Text.splitOn (· == '.') cs).mapM byte? with
  | [a, b, c, d] => some [a * 256 + b, c * 256 + d]
  | _ => none

/-- Groups with colons between them, the last two perhaps as bytes with points. -/
def groups? (cs : List Char) : Option (List Nat) :=
  if cs.isEmpty then some []
  else
    let parts := Text.splitOn (· == ':') cs
    match parts.reverse with
    | [] => none
    | last :: rest => do
      let front ← rest.reverse.mapM group?
      if last.contains '.' then return front ++ (← tail? last) else return front ++ [← group? last]

/-- The parts before and after the first two colons that stand side by side. -/
def atGap? : List Char → Option (List Char × List Char)
  | ':' :: ':' :: rest => some ([], rest)
  | c :: rest => (atGap? rest).map fun (a, b) => (c :: a, b)
  | [] => none

/-- The eight groups of an address in brackets; two colons stand for one or more zero groups. -/
def bracketed? (cs : List Char) : Option (List Nat) :=
  match atGap? cs with
  | none => (groups? cs).bind fun gs => if gs.length = 8 then some gs else none
  | some (before, after) => do
    let a ← groups? before
    let b ← groups? after
    if before.contains '.' then none
    else if a.length + b.length < 8 then
      some (a ++ List.replicate (8 - a.length - b.length) 0 ++ b)
    else none

/-- Where the longest run of at least two zeros begins, and its length; the first of equal runs. -/
def zeroRun (gs : List Nat) : Nat × Nat :=
  let runs := (List.range gs.length).map fun i => (i, ((gs.drop i).takeWhile (· == 0)).length)
  runs.foldl (fun best r => if best.2 < r.2 && 2 ≤ r.2 then r else best) (0, 0)

/-- Groups in base sixteen with colons between them. -/
def groupsText (gs : List Nat) : String :=
  ":".intercalate (gs.map fun g => String.ofList (Nat.toDigits 16 g))

/-- An address in brackets. -/
def bracketedText (gs : List Nat) : String :=
  let (start, length) := zeroRun gs
  if length = 0 then "[" ++ groupsText gs ++ "]"
  else "[" ++ groupsText (gs.take start) ++ "::" ++ groupsText (gs.drop (start + length)) ++ "]"

/-- Whether a character may stand in a name. -/
def isNameChar (c : Char) : Bool :=
  0x20 < c.toNat && c.toNat < 0x7f && !"#/:<>?@[\\]^|%".toList.contains c

/-- The host of a web address in its one form. -/
def ofName? (cs : List Char) : Option String :=
  match cs with
  | '[' :: rest =>
    match rest.reverse with
    | ']' :: inner => (bracketed? inner.reverse).map bracketedText
    | _ => none
  | _ => do
    let name ← Domain.name? (← Text.ofBytes? (unescape (Text.bytes (String.ofList cs)))).toList
    if name.isEmpty || !name.all isNameChar then none
    else if endsInNumber name then (pointed? name).map pointedText
    else return String.ofList name

example : ofName? "127.1".toList = some "127.0.0.1" := by decide +kernel
example : ofName? "[2001:DB8:0:0:1::]".toList = some "[2001:db8:0:0:1::]" := by decide +kernel
example : ofName? "a b".toList = none := by decide +kernel

end Host
end Http
end LeaseKeeper
