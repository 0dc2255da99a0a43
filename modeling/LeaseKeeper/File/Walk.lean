/-
# The way along a path

A path is a text; its names stand between slashes, and a slash at its end asks for a directory.  The
way along it goes from directory to directory, follows at most forty links, and ends at a place
where there is a node, or where one can be made.  The program is privileged: modes are kept with
files and directories, but none bars its way, and none keeps it from opening a file.
-/
import LeaseKeeper.File.Tree
import LeaseKeeper.Text.Blank

namespace LeaseKeeper
namespace File

/-- The names of a path.  A last name that is empty stands for a slash at the end. -/
def names (path : List Char) : List String :=
  let proper := ((Text.splitOn (· == '/') path).filter (!·.isEmpty)).map String.ofList
  if proper.isEmpty then []
  else if path.getLast? = some '/' then proper ++ [""]
  else proper

/-- A path below another one.  A path that begins with a slash stands for itself. -/
def join (base path : String) : String :=
  if path.toList.head? = some '/' then path
  else if base = "" ∨ base.toList.getLast? = some '/' then base ++ path
  else base ++ "/" ++ path

/-- The longest name, in bytes. -/
def longestName : Nat := 255

/-- The longest path, in bytes. -/
def longestPath : Nat := 4095

/-- How many links are followed on one way. -/
def mostLinks : Nat := 40

/-- Names of a link's target with those that follow the link. -/
def splice (target rest : List String) : List String :=
  if rest.isEmpty then target else target.filter (!·.isEmpty) ++ rest

/-- Where a way begins that leads along a path from a directory. -/
def origin (dir : Place) (path : String) : Place :=
  if path.toList.head? = some '/' then [] else dir

/-- How the end of a way is meant. -/
inductive Purpose
  /-- A file is opened to be written, and made if it is not there. -/
  | make
  /-- Whatever is there is used. -/
  | use
  /-- Whatever is there is looked at, even if it is a link. -/
  | look
deriving DecidableEq

/-- The way from a directory along names, with `follow` for the way on from a link. -/
def walkFrom (t : Tree) (purpose : Purpose) (follow : Place → List String → Except IoError Place) :
    Place → List String → Except IoError Place
  | dir, [] => .ok dir
  | dir, name :: rest =>
    if name = "" then .ok dir
    else if name = "." then walkFrom t purpose follow dir rest
    else if name = ".." then walkFrom t purpose follow dir.dropLast rest
    else if rest = [""] ∧ purpose = .make then .error .isDirectory
    else if longestName < name.utf8ByteSize then .error .nameTooLong
    else
      let place := dir ++ [name]
      match t.get? place with
      | none => if rest.isEmpty then .ok place else .error .notFound
      | some (.dir _) => walkFrom t purpose follow place rest
      | some (.file ..) => if rest.isEmpty then .ok place else .error .notDirectory
      | some (.link target) =>
        if rest.isEmpty ∧ purpose = .look then .ok place
        else follow (origin dir target) (splice (names target.toList) rest)

/-- The way from a directory along names, with so many links to follow at most. -/
def walk (t : Tree) (purpose : Purpose) : Nat → Place → List String → Except IoError Place
  | 0 => walkFrom t purpose fun _ _ => .error .tooManyLinks
  | links + 1 => walkFrom t purpose (walk t purpose links)

/-- The place that a path leads to, from the directory in which the program works.  A privileged
program may search every directory, whatever its mode. -/
def Tree.locate (t : Tree) (purpose : Purpose) (work : Place) (path : String) :
    Except IoError Place :=
  if path.toList.any (·.toNat = 0) then .error .nulInPath
  else if longestPath < path.utf8ByteSize then .error .nameTooLong
  else if path = "" then .error .notFound
  else walk t purpose mostLinks (origin work path) (names path.toList)

/-- What a path leads to, links at its end not followed. -/
def Tree.stat? (t : Tree) (work : Place) (path : String) : Option Node :=
  match t.locate .look work path with
  | .ok place => t.get? place
  | .error _ => none

/-- The content of the file that a path leads to. -/
def Tree.read (t : Tree) (work : Place) (path : String) : Except IoError (List UInt8) := do
  let place ← t.locate .use work path
  match t.get? place with
  | some (.file _ content) => .ok content
  | some (.dir _) => .error .isDirectory
  | _ => .error .notFound

/-- The bits that are taken from the mode of a new file or directory. -/
def maskedBits : Nat := 0o022

/-- A mode without the masked bits. -/
def masked (mode : Nat) : Nat := mode &&& (0o7777 ^^^ maskedBits)

/-- Opens the file that a path leads to, without its old content; makes it with the given mode if it
is not there.  A privileged program may write to every file and make one in every directory,
whatever their modes. -/
def Tree.openEmpty (t : Tree) (work : Place) (path : String) (mode : Nat) :
    Except IoError (Place × Tree) := do
  let place ← t.locate .make work path
  match t.get? place with
  | none => .ok (place, t.set place (.file (masked mode) []))
  | some (.file old _) => .ok (place, t.set place (.file old []))
  | _ => .error .isDirectory

end File
end LeaseKeeper
