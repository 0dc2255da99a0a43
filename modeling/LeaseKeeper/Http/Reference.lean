/-
# Reading addresses and references

An address is read leniently.  Spaces and controls around it do not count, tabs and line ends vanish
anywhere, and whatever may not stand in a part is escaped.  For web addresses a backslash is a
slash, and the host may not be empty.  The segments `.` and `..` are resolved.  A reference is what
stands in a document at one address for another: it may leave out what the two have in common.
-/
import LeaseKeeper.Http.Url
import LeaseKeeper.Text.Blank

namespace LeaseKeeper
namespace Http

namespace Path

/-- A segment with its escaped points as points. -/
def plainDots : List Char → List Char
  | '%' :: '2' :: 'e' :: rest => '.' :: plainDots rest
  | '%' :: '2' :: 'E' :: rest => '.' :: plainDots rest
  | c :: rest => c :: plainDots rest
  | [] => []

/-- Whether a segment is a drive: a letter and a mark after it. -/
def isDrive : List Char → Bool
  | [c, mark] => c.isAlpha && (mark == ':' || mark == '|')
  | _ => false

/-- Drops the last segment, unless it is a drive; `rev` holds the segments, the last one first. -/
def dropLast : List String → List String
  | [] => []
  | name :: rest => if isDrive name.toList then name :: rest else rest

/-- Adds a segment to those before it, the last one first; `isLast` says that no other follows. -/
def push (isLast : Bool) (rev : List String) (segment : List Char) : List String :=
  let dots := plainDots segment
  if dots == ['.', '.'] then if isLast then "" :: dropLast rev else dropLast rev
  else if dots == ['.'] then if isLast then "" :: rev else rev
  else String.ofList (escape pathExtra segment) :: rev

/-- Adds segments to those before them. -/
def pushAll (rev : List String) : List (List Char) → List String
  | [] => rev
  | [segment] => push true rev segment
  | segment :: rest => pushAll (push false rev segment) rest

/-- Whether a character separates the segments of a path. -/
def isSeparator (isSpecial : Bool) (c : Char) : Bool := c == '/' || (isSpecial && c == '\\')

/-- The path that a text without its first slash leads to from a folder. -/
def resolve (isSpecial : Bool) (folder : List String) (cs : List Char) : Path :=
  segments (pushAll folder.reverse (Text.splitOn (isSeparator isSpecial) cs)).reverse

end Path

/-! ### Tabs and line ends -/

/-- Whether a character is a tab or belongs to a line end. -/
def isBreak (c : Char) : Bool := c == '\t' || c == '\n' || c == '\r'

/-- A text without its tabs and line ends. -/
def unbroken (cs : List Char) : List Char := cs.filter (!isBreak ·)

/-- What is left after some characters, of which tabs and line ends do not count. -/
def dropUnbroken : Nat → List Char → List Char
  | 0, cs => cs
  | _, [] => []
  | n + 1, c :: cs => if isBreak c then dropUnbroken (n + 1) cs else dropUnbroken n cs

/-! ### Paths of files -/

/-- The path of a file as far as it has been read. -/
structure FilePath where
  /-- The segments, the last one first. -/
  rev : List String
  /-- Whether the first one is a drive. -/
  onDrive : Bool

namespace FilePath

/-- The letter of a drive that a segment begins with, and what follows: it does so after a colon
that a tab or line end comes after. -/
def afterDrive? (segment : List Char) : Option (Char × List Char) :=
  match segment.dropWhile isBreak with
  | c :: more =>
    match more.dropWhile isBreak with
    | ':' :: b :: rest =>
      if c.isAlpha && isBreak b && !(unbroken rest).isEmpty then some (c, unbroken rest) else none
    | _ => none
  | [] => none

/-- Adds a segment, which may have tabs and line ends.  A drive in front is written with a colon.
What follows a drive in its own segment stands for itself. -/
def push (isLast : Bool) (p : FilePath) (segment : List Char) : FilePath :=
  let name := unbroken segment
  match p.rev, name, afterDrive? segment with
  | [], _, some (c, rest) =>
    { p with rev := [String.ofList (escape pathExtra rest), String.ofList [c, ':']] }
  | [], c :: _, none =>
    if Path.isDrive name then ⟨[String.ofList [c, ':']], true⟩
    else { p with rev := Path.push isLast [] name }
  | rev, _, _ => { p with rev := Path.push isLast rev name }

/-- Adds segments to those before them. -/
def pushAll (p : FilePath) : List (List Char) → FilePath
  | [] => p
  | [segment] => push true p segment
  | segment :: rest => pushAll (push false p segment) rest

/-- The path that a text without its first slash is. -/
def ofText (cs : List Char) : FilePath :=
  pushAll ⟨[], false⟩ (Text.splitOn (Path.isSeparator true) cs)

/-- The path without empty segments in front. -/
def path (p : FilePath) : Path :=
  match p.rev.reverse.dropWhile (· == "") with
  | [] => .segments [""]
  | names => .segments names

end FilePath

namespace Url

/-- A text at the first character that satisfies `p`. -/
def cutAt (p : Char → Bool) (cs : List Char) : List Char × List Char :=
  (cs.takeWhile (!p ·), cs.dropWhile (!p ·))

/-- A text with its query and fragment, each without its sign. -/
def cutEnds (cs : List Char) : List Char × Option (List Char) × Option (List Char) :=
  let (front, rest) := cutAt (· == '#') cs
  let fragment := match rest with
    | [] => none
    | _ :: f => some f
  match cutAt (· == '?') front with
  | (path, []) => (path, none, fragment)
  | (path, _ :: query) => (path, some query, fragment)

/-- The address with a query and a fragment, each if it is given. -/
def withEnds (u : Url) (query fragment : Option (List Char)) : Url :=
  { u with
    query := query.map fun q => String.ofList (escape (queryExtra (isSpecial u.scheme)) q)
    fragment := fragment.map fun f => String.ofList (escape fragmentExtra f) }

/-- The address with what follows its authority, of which `path` makes a path. -/
def withRest (u : Url) (path : List Char → Path) (cs : List Char) : Url :=
  let (front, query, fragment) := cutEnds cs
  { u with path := path front }.withEnds query fragment

/-- An address of which only the scheme is known. -/
def ofScheme (scheme : String) : Url := ⟨scheme, "", none, none, .plain "", none, none⟩

/-- A port, none if it is empty or the usual one; no answer at all if it is not a number of 16
bits. -/
def port? (scheme : String) (cs : List Char) : Option (Option Nat) :=
  if cs.isEmpty then some none
  else (Text.digits? cs).bind fun n =>
    if 65536 ≤ n then none else some (if usualPort? scheme = some n then none else some n)

/-- A name and what follows it from the first colon outside brackets. -/
def cutPort : Bool → List Char → List Char × List Char
  | _, [] => ([], [])
  | inside, c :: rest =>
    if c == ':' && !inside then ([], c :: rest)
    else
      let (a, b) := cutPort (if c == '[' then true else if c == ']' then false else inside) rest
      (c :: a, b)

/-- The host of a scheme that is not special: whatever has no forbidden character. -/
def opaqueHost? (cs : List Char) : Option String :=
  match cs with
  | '[' :: _ => Host.ofName? cs
  | _ =>
    if cs.any fun c => c.toNat == 0 || " #/:<>?@[\\]^|".toList.contains c then none
    else some (String.ofList (escape [] cs))

/-- The user that stands before an at sign; an empty password does not count. -/
def userText (cs : List Char) : String :=
  let name := String.ofList (escape userExtra (cs.takeWhile (· != ':')))
  match cs.dropWhile (· != ':') with
  | _ :: c :: rest => name ++ ":" ++ String.ofList (escape userExtra (c :: rest))
  | _ => name

/-- An authority with its last at sign between the two parts, if it has one. -/
def cutUser (cs : List Char) : Option (List Char) × List Char :=
  let rev := cs.reverse
  let host := (rev.takeWhile (· != '@')).reverse
  match rev.dropWhile (· != '@') with
  | [] => (none, host)
  | _ :: user => (some user.reverse, host)

/-- The address after the two slashes that begin an authority. -/
def afterSlashes? (scheme : String) (cs : List Char) : Option Url := do
  let special := isSpecial scheme
  let (authority, rest) := cutAt (fun c => Path.isSeparator special c || c == '?' || c == '#') cs
  let (user, named) := cutUser authority
  let (name, colon) := cutPort false named
  let (digits, strange) := cutAt (· == '\\') colon.tail
  let port ← port? scheme digits
  let user := (user.map userText).getD ""
  let u := { ofScheme scheme with user, port }
  if special then
    let host ← Host.ofName? name
    return { u with host }.withRest (.resolve true [] ·.tail) rest
  else if name.isEmpty && (!user.isEmpty || !colon.isEmpty) then none
  else if authority == ['@'] && !rest.isEmpty then none
  else
    let host ← opaqueHost? name
    return { u with host }.withRest (fun path =>
      match strange ++ path with
      | [] => .segments []
      | '/' :: path => .resolve false [] path
      | path => .resolve false [] path) rest

/-- The address of a file with a host, unless a drive begins its path; the text after the host may
have tabs and line ends. -/
def ofFile (host : String) (cs : List Char) : Url :=
  let (front, query, fragment) := cutEnds cs
  let p := FilePath.ofText front
  let host := some (if p.onDrive then "" else host)
  { ofScheme fileScheme with host, path := p.path }.withEnds (query.map unbroken)
    (fragment.map unbroken)

/-- The address of a file after its scheme: a host may stand between two slashes and the path, but
a drive is no host.  Without a host, the slash in front of the path begins an empty segment. -/
def file? (cs : List Char) : Option Url :=
  let isSlash := Path.isSeparator true
  match unbroken cs with
  | a :: b :: rest =>
    if isSlash a && isSlash b then
      let (name, after) := cutAt (fun c => isSlash c || c == '?' || c == '#') rest
      let rooted := dropUnbroken (name.length + 2) cs
      if name.isEmpty then some (ofFile "" rooted)
      else if Path.isDrive name then some (ofFile "" (dropUnbroken 2 cs))
      else
        (Host.ofName? name).map fun host =>
          if host = "localhost" then ofFile "" rooted
          else ofFile host (if after.head?.any isSlash then dropUnbroken 1 rooted else rooted)
    else some (ofFile "" (if isSlash a then dropUnbroken 1 cs else cs))
  | a :: _ => some (ofFile "" (if isSlash a then dropUnbroken 1 cs else cs))
  | [] => some (ofFile "" [])

/-- An address of any other scheme, after that scheme. -/
def other? (scheme : String) (cs : List Char) : Option Url :=
  match cs with
  | '/' :: '/' :: rest => afterSlashes? scheme rest
  | '/' :: rest => some ((ofScheme scheme).withRest (.resolve false []) rest)
  | _ => some ((ofScheme scheme).withRest (fun path => .plain (String.ofList (escape [] path))) cs)

/-- The scheme at the beginning of a text, in lower case, and what follows its colon. -/
def scheme? (cs : List Char) : Option (String × List Char) :=
  match cutAt (· == ':') cs with
  | (name, _ :: rest) =>
    match unbroken name with
    | [] => none
    | first :: more =>
      if first.isAlpha && more.all fun c => c.isAlphanum || c == '+' || c == '-' || c == '.' then
        some (String.ofList ((first :: more).map Char.toLower), rest)
      else none
  | _ => none

/-- A text without spaces and controls around it. -/
def trimmed (s : String) : List Char :=
  Text.trimBoth (fun c => decide (c.toNat ≤ 0x20)) s.toList

/-- The slashes of a web address at the beginning of a text. -/
def slashes (cs : List Char) : List Char := cs.takeWhile (Path.isSeparator true)

/-- The address that a text after a scheme is. -/
def afterScheme? (scheme : String) (text : List Char) : Option Url :=
  let cs := unbroken text
  if (usualPort? scheme).isSome then afterSlashes? scheme (cs.drop (slashes cs).length)
  else if scheme = fileScheme then file? text
  else other? scheme cs

/-- The address that a text is, if it is one. -/
def parse? (s : String) : Option Url :=
  (scheme? (trimmed s)).bind fun (scheme, rest) => afterScheme? scheme rest

/-- The address that a reference without a scheme means at a web address. -/
def relative? (base : Url) (cs : List Char) : Option Url :=
  match cs with
  | [] => some base.withoutFragment
  | '?' :: _ => some (base.withRest (fun _ => base.path) cs)
  | '#' :: fragment =>
    some { base with fragment := some (String.ofList (escape fragmentExtra fragment)) }
  | c :: rest =>
    if (slashes cs).length ≥ 2 then
      match cs with
      | '/' :: '/' :: after => afterSlashes? base.scheme after
      | _ => afterSlashes? base.scheme (cs.drop (slashes cs).length)
    else if Path.isSeparator true c then some (base.withRest (.resolve true []) rest)
    else some (base.withRest (.resolve true base.path.folder) cs)

/-- The address that a reference means at a web address. -/
def join? (base : Url) (reference : String) : Option Url :=
  let text := trimmed reference
  match scheme? text with
  | none => relative? base (unbroken text)
  | some (scheme, rest) =>
    if scheme = base.scheme && (slashes (unbroken rest)).length < 2 then
      relative? base (unbroken rest)
    else afterScheme? scheme rest

end Url
end Http
end LeaseKeeper
