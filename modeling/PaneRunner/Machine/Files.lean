import PaneRunner.Text.Pieces
import PaneRunner.Text.Search
import PaneRunner.Text.Utf8

/-
  A tree of files and directories, and what the system says of a path. A path is followed name by
  name: what comes before a slash must be a directory.
-/
namespace PaneRunner.Machine

/-- What the system refuses. -/
inductive OsError where
  | notFound
  | denied
  | notDirectory
  | isDirectory
  | nameTooLong
  /-- a path that no file can have -/
  | nulInName
  /-- an argument that no program can be given -/
  | nulInArgument
  /-- a file read as text that is none -/
  | notText
  deriving DecidableEq, Repr

/-- The system's text for a refusal. -/
def OsError.text : OsError → String
  | .notFound => "No such file or directory (os error 2)"
  | .denied => "Permission denied (os error 13)"
  | .notDirectory => "Not a directory (os error 20)"
  | .isDirectory => "Is a directory (os error 21)"
  | .nameTooLong => "File name too long (os error 36)"
  | .nulInName => "file name contained an unexpected NUL byte"
  | .nulInArgument => "nul byte found in provided data"
  | .notText => "stream did not contain valid UTF-8"

/-- What a name in a directory stands for. -/
inductive Entry where
  | file (content : Bytes)
  | directory
  deriving DecidableEq, Repr

/-- The names on the way from the root. -/
abbrev Place := List String

/-- The entries of a tree by their places. The root is a directory always. -/
abbrev Tree := List (Place × Entry)

namespace Tree

/-- What stands at a place. -/
def at? (t : Tree) (p : Place) : Option Entry := if p = [] then some .directory else t.lookup p

/-- The place that names lead to from a place. -/
def walk (t : Tree) : Place → List String → Except OsError Place
  | p, [] => .ok p
  | p, n :: ns =>
    match t.at? p with
    | none => .error .notFound
    | some (.file _) => .error .notDirectory
    | some .directory =>
      if n = "" ∨ n = "." then walk t p ns
      else if n = ".." then walk t p.dropLast ns
      else if 255 < n.utf8ByteSize then .error .nameTooLong
      else if (t.at? (p ++ [n])).isSome then walk t (p ++ [n]) ns
      else .error .notFound

/-- The names in a path. -/
def names (path : String) : List String := (Text.pieces '/' path.toList).map .ofList

/-- Whether a path starts at the root. -/
def isAbsolute (path : String) : Bool := Text.startsWith path "/"

/-- The place and the entry that a path leads to from a directory. -/
def resolve (t : Tree) (cwd : Place) (path : String) : Except OsError (Place × Entry) :=
  if path.toList.contains '\x00' then .error .nulInName
  else if path = "" then .error .notFound
  else if 4095 < path.utf8ByteSize then .error .nameTooLong
  else do
    let p ← t.walk (if isAbsolute path then [] else cwd) (names path)
    match t.at? p with
    | some e => pure (p, e)
    | none => throw .notFound

/-- The content of a file. -/
def read (t : Tree) (cwd : Place) (path : String) : Except OsError Bytes := do
  match ← t.resolve cwd path with
  | (_, .file content) => pure content
  | (_, .directory) => throw .isDirectory

/-- The content of a text file. -/
def readText (t : Tree) (cwd : Place) (path : String) : Except OsError String := do
  match Text.Utf8.decode? (← t.read cwd path) with
  | some s => pure s
  | none => throw .notText

/-- The tree with an entry put at a place. -/
def put (t : Tree) (p : Place) (e : Entry) : Tree := (p, e) :: t.filter fun x => x.1 != p

/-- The tree without a file. -/
def remove (t : Tree) (cwd : Place) (path : String) : Except OsError Tree := do
  match ← t.resolve cwd path with
  | (p, .file _) => pure (t.filter fun x => x.1 != p)
  | (_, .directory) => throw .isDirectory

/-- The tree with something appended to a file, if the path leads to one. -/
def append (t : Tree) (cwd : Place) (path : String) (more : Bytes) : Tree :=
  match t.resolve cwd path with
  | .ok (p, .file content) => t.put p (.file (content ++ more))
  | _ => t

/-- How many files stand in a directory. -/
def countFiles (t : Tree) (p : Place) : Nat := t.countP fun x => x.1.dropLast == p

/-- The tree with a directory, and every directory on the way to it. -/
def makeDirs (t : Tree) (p : Place) : Tree :=
  (List.range (p.length + 1)).foldl
    (fun t n => if (t.at? (p.take n)).isSome then t else t.put (p.take n) .directory) t

end Tree

end PaneRunner.Machine
