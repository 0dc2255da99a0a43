/-
# The token file

The token of the newest lease is kept in a file that its owner alone may read and write, either at a
fixed path or in the home directory of the moment.  To persist a token takes four steps: the file is
opened and emptied, its mode is set, the token is written, and the file is flushed.
-/
import LeaseKeeper.Trace
import LeaseKeeper.File.Walk
import LeaseKeeper.Text.Utf8

namespace LeaseKeeper

/-- Where the token file is. -/
inductive TokenFile
  | inHome
  | at (path : String)
deriving DecidableEq

namespace TokenFile

/-- The name of the token file in the home directory. -/
def fileName : String := ".vault-token"

/-- The mode of the token file: its owner may read and write. -/
def fileMode : Nat := 0o600

/-- Where the program finds itself. -/
structure Setting where
  /-- The home directory that is set, if any. -/
  home : Option String
  /-- The home directory of the account, for when none is set. -/
  account : Option String
  /-- The directory in which the program works. -/
  work : File.Place
deriving DecidableEq

/-- The home directory; one that is set but empty does not count. -/
def Setting.homeDirectory (s : Setting) : Option String :=
  (s.home.filter (· != "")).or s.account

/-- The path of the token file. -/
def path (f : TokenFile) (s : Setting) : Except KeeperError String :=
  match f with
  | .at path => .ok path
  | .inHome =>
    match s.homeDirectory with
    | none => .error .homeUnknown
    | some home => .ok (File.join home fileName)

/-- The tree with the mode of the file at a place set. -/
def restrict (t : File.Tree) (place : File.Place) : File.Tree :=
  match t.get? place with
  | some (.file _ content) => t.set place (.file fileMode content)
  | _ => t

/-- The tree with bytes written into the open file at a place. -/
def fill (t : File.Tree) (place : File.Place) (bytes : List UInt8) : File.Tree :=
  match t.get? place with
  | some (.file mode content) => t.set place (.file mode (content ++ bytes))
  | _ => t

/-- The tree after each step by which a token is written to a path: opened, restricted, written,
flushed. -/
def stages (t : File.Tree) (work : File.Place) (path token : String) :
    Except IoError (List File.Tree) := do
  let (place, opened) ← t.openEmpty work path fileMode
  let restricted := restrict opened place
  let written := fill restricted place (Text.bytes token)
  return [opened, restricted, written, written]

/-- Writes a token to a path. -/
def write (t : File.Tree) (work : File.Place) (path token : String) : Except IoError File.Tree :=
  (stages t work path token).map fun trees => trees.getLastD t

/-- Persists a token: the tree after it, and the note or the error that follows. -/
def persist (f : TokenFile) (s : Setting) (t : File.Tree) (token : String) :
    Except KeeperError Note × File.Tree :=
  match f.path s with
  | .error e => (.error e, t)
  | .ok path =>
    match write t s.work path token with
    | .error cause => (.error (.notPersisted path cause), t)
    | .ok written => (.ok (.tokenWritten path), written)

end TokenFile
end LeaseKeeper
