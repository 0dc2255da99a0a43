/-
# Changes from outside

What others do to the files: they make directories, write and remove files, set modes and place
links.  A change that is not possible leaves everything as it is.
-/
import LeaseKeeper.File.Walk

namespace LeaseKeeper
namespace File

/-- A change from outside, at a path. -/
inductive Change
  /-- A directory is made, with all directories on the way to it. -/
  | makeDirs (path : String)
  /-- A file is written. -/
  | write (path : String) (content : List UInt8)
  /-- The mode of a file or directory is set. -/
  | setMode (path : String) (mode : Nat)
  /-- A link is placed. -/
  | link (path target : String)
  /-- Whatever is there is removed, with everything below it. -/
  | remove (path : String)
deriving DecidableEq

namespace Change

/-- The mode of a new directory. -/
def dirMode : Nat := masked 0o777

/-- Makes a directory at the end of each of the given paths where there is nothing. -/
def makeEach (t : Tree) (work : Place) (paths : List String) : Tree :=
  paths.foldl (fun t path =>
    match t.locate .use work path with
    | .error _ => t
    | .ok place =>
      match t.get? place with
      | none => t.set place (.dir dirMode)
      | some _ => t) t

/-- The paths that a path goes through, itself the last. -/
def stages (path : String) : List String :=
  let lead := if path.toList.head? = some '/' then "/" else ""
  let parts := (names path.toList).filter (· != "")
  (List.range parts.length).map fun i => lead ++ "/".intercalate (parts.take (i + 1))

/-- The tree after a change. -/
def apply (t : Tree) (work : Place) : Change → Tree
  | makeDirs path => makeEach t work (stages path)
  | write path content =>
    match t.openEmpty work path 0o666 with
    | .error _ => t
    | .ok (place, opened) =>
      match opened.get? place with
      | some (.file mode _) => opened.set place (.file mode content)
      | _ => opened
  | setMode path mode =>
    match t.locate .use work path with
    | .error _ => t
    | .ok place =>
      match t.get? place with
      | some (.file _ content) => t.set place (.file mode content)
      | some (.dir _) => t.set place (.dir mode)
      | _ => t
  | link path target =>
    match t.locate .look work path with
    | .error _ => t
    | .ok place =>
      match t.get? place with
      | none => t.set place (.link target)
      | some _ => t
  | remove path =>
    match t.locate .look work path with
    | .error _ => t
    | .ok place => t.erase place

end Change
end File
end LeaseKeeper
