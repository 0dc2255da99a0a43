/-
# Reading patterns

A pattern is written as characters that stand for themselves, sets in brackets, groups in
parentheses, bars between choices, and the signs `*`, `+` and `?` after what is repeated.  Options
such as `(?i)` hold up to the end of their group.  Numbers of times in braces are not read.
-/
import LeaseKeeper.Pattern.Bracket
import LeaseKeeper.Pattern.Choice
import LeaseKeeper.Pattern.Net
import LeaseKeeper.Text.Alphanumeric

namespace LeaseKeeper
namespace Pattern

/-- What an opening parenthesis begins. -/
inductive Opening
  /-- A group that is numbered and perhaps has a name. -/
  | numbered (name : Option String)
  /-- A group with options. -/
  | group (options : List (Flag × Bool))
  /-- Options for the rest of the group at hand. -/
  | options (options : List (Flag × Bool))

/-- Whether a character may stand in the name of a group. -/
def isNamePart (isFirst : Bool) (c : Char) : Bool :=
  if isFirst then c == '_' || Text.isLetter c
  else Text.isAlphanumeric c || ['_', '.', '[', ']'].contains c

/-- The name of a group up to its closing bracket, and the rest. -/
def name? (cs : List Char) : Option (String × List Char) :=
  match cs.takeWhile (· ≠ '>'), cs.dropWhile (· ≠ '>') with
  | c :: more, _ :: rest =>
    if isNamePart true c && more.all (isNamePart false) then some (String.ofList (c :: more), rest)
    else none
  | _, _ => none

/-- What stands after an opening parenthesis, and the rest. -/
def opening? : List Char → Option (Opening × List Char)
  | '?' :: 'P' :: '<' :: cs => (name? cs).map fun (name, rest) => (.numbered (some name), rest)
  | '?' :: '<' :: cs => (name? cs).map fun (name, rest) => (.numbered (some name), rest)
  | '?' :: cs => do
    let isEnd (c : Char) : Bool := c == ':' || c == ')'
    let letters := cs.takeWhile (!isEnd ·)
    let options ← switched? letters
    match cs.dropWhile (!isEnd ·) with
    | ':' :: rest => some (.group options, rest)
    | ')' :: rest => if letters.isEmpty then none else some (.options options, rest)
    | _ => none
  | cs => some (.numbered none, cs)

/-- A group that is being read. -/
structure Group where
  /-- Its number, if it has one. -/
  number : Option Nat
  /-- The options that are on. -/
  options : Options
  /-- The choices in front of the last bar, the last one first. -/
  choices : List (Nested Pattern)
  /-- What stands after the last bar, the last one first; `none` is no pattern at all. -/
  items : List (Option (Nested Pattern))

namespace Group

/-- The start of a group. -/
def start (number : Option Nat) (options : Options) : Group := ⟨number, options, [], []⟩

/-- The group with one more item. -/
def push (g : Group) (p : Nested Pattern) : Group := { g with items := some p :: g.items }

/-- What stands after the last bar. -/
def choice (g : Group) : Nested Pattern :=
  .ofList (fun ps => Pattern.ofList (ps.flatMap parts))
    (g.items.reverse.map fun item => item.getD (.flat .empty))

/-- The group after a bar. -/
def bar (g : Group) : Group := ⟨g.number, g.options, g.choice :: g.choices, []⟩

/-- What stands between the parentheses. -/
def inside (g : Group) : Nested Pattern :=
  match g.choices with
  | [] => g.choice
  | more => .ofList oneOf (g.choice :: more).reverse

/-- The pattern of a group. -/
def pattern (g : Group) : Nested Pattern :=
  g.inside.deeper (match g.number with
    | some n => .group n
    | none => id)

/-- Repeats the last item. -/
def repeatLast? (g : Group) (sign : Char) (isMarked : Bool) : Option Group :=
  match g.items with
  | some p :: rest =>
    let greedy := isMarked == g.options.has .seldom
    let repeated := if sign = '*' then many greedy
      else if sign = '+' then atLeastOnce greedy
      else optional greedy
    some { g with items := some (p.deeper repeated) :: rest }
  | _ => none

/-- Adds a place; words are those of ASCII. -/
def pushPlace? (g : Group) (p : Place) : Option Group :=
  if p.isOfWords && g.options.has .scripts then none else some (g.push (.flat (.place p)))

/-- Adds a character of a set. -/
def pushSet (g : Group) (s : CharSet) : Group := g.push (.flat (.one s))

/-- Adds what stands after a backslash. -/
def pushEscape? (g : Group) : Escape → Option Group
  | .character c isByte => (g.options.character? c isByte).map g.pushSet
  | .set isOutside ranges => (g.options.shorthand? isOutside ranges).map g.pushSet
  | .place p => g.pushPlace? p

/-- Adds the mark of a start or an end. -/
def pushMark (g : Group) (atText : Place) (atLine : Bool → Place) : Group :=
  let p := if g.options.has .lines then atLine (g.options.has .returns) else atText
  g.push (.flat (.place p))

end Group

/-! ### The whole -/

/-- A pattern that is being read: the group at hand, the groups around it, the inmost one first, and
the names of groups and their number so far. -/
structure Draft where
  /-- The group at hand. -/
  group : Group
  /-- The groups around it. -/
  outer : List Group
  /-- The names of groups. -/
  names : List String
  /-- How many groups are numbered. -/
  count : Nat

namespace Draft

/-- The draft after an opening parenthesis. -/
def opened? (d : Draft) : Opening → Option Draft
  | .numbered name =>
    if name.any d.names.contains then none
    else
      some ⟨.start (some d.count) d.group.options, d.group :: d.outer, name.toList ++ d.names,
        d.count + 1⟩
  | .group options =>
    some { d with
      group := .start none (d.group.options.switch options)
      outer := d.group :: d.outer }
  | .options options =>
    some { d with
      group := { d.group with
        options := d.group.options.switch options
        items := none :: d.group.items } }

/-- The draft after a closing parenthesis. -/
def closed? (d : Draft) : Option Draft :=
  match d.outer with
  | [] => none
  | g :: rest => some { d with group := g.push d.group.pattern, outer := rest }

/-- The draft after the next part of a pattern, which begins with this character, and the rest. -/
def push? (d : Draft) (c : Char) (rest : List Char) : Option (Draft × List Char) :=
  let g := d.group
  let o := g.options
  let goOn (rest : List Char) (g : Group) : Draft × List Char := ({ d with group := g }, rest)
  match c with
  | '\\' => do
    let (e, rest) ← escape? o rest
    (g.pushEscape? e).map (goOn rest)
  | '[' => do
    let (inner, rest) ← Pattern.opened? o rest
    let (s, rest) ← bracket? o (rest.length + 1) inner rest
    return goOn rest (g.push ⟨.one s.value, s.depth⟩)
  | '(' => do
    let (opening, rest) ← opening? (o.skip rest)
    (d.opened? opening).map fun d => (d, rest)
  | ')' => d.closed?.map fun d => (d, rest)
  | '|' => some (goOn rest g.bar)
  | '.' => o.point?.map fun s => goOn rest (g.pushSet s)
  | '^' => some (goOn rest (g.pushMark .start .lineStart))
  | '$' => some (goOn rest (g.pushMark .finish .lineFinish))
  | c =>
    if c == '*' || c == '+' || c == '?' then
      match rest with
      | '?' :: rest => (g.repeatLast? c true).map (goOn rest)
      | rest => (g.repeatLast? c false).map (goOn rest)
    else if c.toNat = 0x7b then none
    else (o.character? c false).map fun s => goOn rest (g.pushSet s)

/-- Reads up to the end, in at most `fuel` steps. -/
def read? : Nat → Draft → List Char → Option Draft
  | fuel, d, cs =>
    match fuel, d.group.options.skip cs with
    | _, [] => some d
    | 0, _ => none
    | fuel + 1, c :: rest => do
      let (d, rest) ← d.push? c rest
      read? fuel d rest

end Draft

/-- How deeply a pattern may be nested. -/
def greatestDepth : Nat := 250

/-- The pattern that a text is. -/
def parse? (text : String) : Option Pattern := do
  let d ← Draft.read? text.length ⟨.start none .initial, [], [], 0⟩ text.toList
  let p := d.group.inside
  if d.outer.isEmpty && p.depth ≤ greatestDepth then some p.value else none

example : (parse? "a(b|c)*[x-z]").any (·.fits "abcbz") = true := by decide +kernel

example : parse? "a(b" = none ∧ parse? "*a" = none ∧ parse? "[b-a]" = none := by decide +kernel

example : parse? "\\w" = none ∧ (parse? "(?-u)\\w\\b").any (·.fits "a") = true := by
  decide +kernel

end Pattern
end LeaseKeeper
