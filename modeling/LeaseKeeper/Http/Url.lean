/-
# Addresses

An address has a scheme and then either a path that only its scheme understands, or perhaps a user,
a host and a port, and a path of segments; a query and a fragment may follow.  It is kept in one
form, in which no character stands in a part that may not hold it.
-/
import LeaseKeeper.Http.Host

namespace LeaseKeeper
namespace Http

/-- The path of an address. -/
inductive Path
  /-- A path that only the scheme understands. -/
  | plain (text : String)
  /-- Segments, each after a slash. -/
  | segments (names : List String)
deriving DecidableEq

namespace Path

/-- A path with its slashes. -/
def text : Path → String
  | plain s => s
  | segments names => String.join (names.map ("/" ++ ·))

/-- The segments of a path but for the last one. -/
def folder : Path → List String
  | plain _ => []
  | segments names => names.dropLast

end Path

/-- An address in its one form. -/
structure Url where
  /-- The scheme, in lower case. -/
  scheme : String
  /-- The name of the user, perhaps with a colon and a password; empty if there is none. -/
  user : String
  /-- The host; `none` means that there is no authority at all. -/
  host : Option String
  /-- The port, unless it is the usual one. -/
  port : Option Nat
  /-- The path. -/
  path : Path
  /-- What follows a question mark. -/
  query : Option String
  /-- What follows a number sign. -/
  fragment : Option String
deriving DecidableEq

namespace Url

/-- The usual port of a scheme whose addresses always have a host. -/
def usualPort? (scheme : String) : Option Nat :=
  if scheme = "http" ∨ scheme = "ws" then some 80
  else if scheme = "https" ∨ scheme = "wss" then some 443
  else if scheme = "ftp" then some 21
  else none

/-- The scheme of the addresses of files. -/
def fileScheme : String := "file"

/-- Whether backslashes count as slashes. -/
def isSpecial (scheme : String) : Bool := (usualPort? scheme).isSome || scheme == fileScheme

/-- Whether there is a host that is not empty. -/
def hasHost (u : Url) : Bool := u.host.any (· != "")

/-- A host with a port after it, unless it is the usual one. -/
def hostText (host : String) (port : Option Nat) : String :=
  host ++ (match port with
    | none => ""
    | some n => ":" ++ Nat.repr n)

/-- The authority with the two slashes before it, if there is one. -/
def authorityText (u : Url) : String :=
  match u.host with
  | none => ""
  | some host => "//" ++ (if u.user.isEmpty then "" else u.user ++ "@") ++ hostText host u.port

/-- The path; without an authority, one that begins with two slashes has a mark before it. -/
def pathText (u : Url) : String :=
  match u.host, u.path with
  | none, .segments ("" :: _ :: _) => "/." ++ u.path.text
  | _, path => path.text

/-- A query with its sign. -/
def queryText (u : Url) : String :=
  match u.query with
  | none => ""
  | some q => "?" ++ q

/-- An address as a text. -/
def text (u : Url) : String :=
  u.scheme ++ ":" ++ u.authorityText ++ u.pathText ++ u.queryText
    ++ (match u.fragment with
      | none => ""
      | some f => "#" ++ f)

/-- What a request asks the server for: path and query. -/
def target (u : Url) : String := u.path.text ++ u.queryText

/-- The address without its fragment. -/
def withoutFragment (u : Url) : Url := { u with fragment := none }

/-- Whether the escaped bytes of a text are the form of a text. -/
def isReadable (s : String) : Bool := (Text.ofBytes? (unescape (Text.bytes s))).isSome

/-- The address without its user, as far as name and password can be read. -/
def withoutUser (u : Url) : Url :=
  let name := u.user.toList.takeWhile (· != ':')
  let password := u.user.toList.drop (name.length + 1)
  if isReadable (String.ofList name) && (!name.isEmpty || isReadable (String.ofList password)) then
    { u with user := "" }
  else u

/-- Whether a request can be sent to an address of this scheme. -/
def isWeb (u : Url) : Bool := u.scheme == "http" || u.scheme == "https"

end Url
end Http
end LeaseKeeper
