import PaneRunner.Duration
import PaneRunner.Machine.Files
import PaneRunner.Simulation.Rules

/-
  A machine: files, a working directory, an environment, and the programs that can be run. Every
  program answers by rules; the machine keeps a log of what was run.
-/
namespace PaneRunner

namespace Machine

/-- What one run of a program does. -/
structure Run where
  stdout : Bytes := []
  stderr : Bytes := []
  /-- its exit code, or none if a signal ends it -/
  code : Option Int32 := some 0
  /-- how long it takes -/
  takes : Duration := .zero
  /-- what it appends to the file that its last argument pipes to -/
  appends : Option Bytes := none
  deriving DecidableEq, Repr

/-- A program that can be found by its name; `none` if it may not be run. -/
abbrev Program := Option (List (Simulation.Rule Run))

end Machine

structure Machine where
  tree : Machine.Tree := []
  cwd : Machine.Place := []
  env : List (String × Bytes) := []
  programs : List (String × Machine.Program) := []
  /-- seconds since 1970 -/
  clock : Nat := 0
  /-- how many names were made up so far -/
  madeUp : Nat := 0
  /-- the argument vectors of all programs run, the latest first -/
  calls : List (List String) := []

namespace Machine

variable (m : Machine)

/-- The value of a variable, if it has one and that is text. -/
def var? (name : String) : Option String := (m.env.lookup name).bind Text.Utf8.decode?

def read (path : String) : Except OsError Bytes := m.tree.read m.cwd path

def readText (path : String) : Except OsError String := m.tree.readText m.cwd path

/-- The machine after something was appended to a file. -/
def appendTo (path : String) (more : Bytes) : Machine :=
  { m with tree := m.tree.append m.cwd path more }

/-- The file that the last argument pipes to. -/
def pipedFile? (argv : List String) : Option String := do
  let rest ← Text.stripStart? (← argv.getLast?) "cat >> '"
  if Text.endsWith rest "'" then some (.ofList rest.toList.dropLast) else none

/-- Why the file at a path cannot be run as a program. -/
def whyNot (path : String) : OsError :=
  match m.tree.resolve m.cwd path with
  | .error e => e
  | .ok _ => .denied

/-- Run a program. A name with a slash in it is a path; any other is looked up. -/
def spawn (program : String) (args : List String) : Except OsError Run × Machine :=
  let argv := program :: args
  if argv.any fun a => a.toList.contains '\x00' then (.error .nulInArgument, m)
  else if Text.contains program "/" then (.error (m.whyNot program), m)
  else if 255 < program.utf8ByteSize then (.error .nameTooLong, m)
  else match m.programs.lookup program with
    | none => (.error .notFound, m)
    | some none => (.error .denied, m)
    | some (some rules) =>
      let (run?, rules) := Simulation.Rule.take (Text.join " " argv) rules
      let run := run?.getD {}
      let programs := (program, some rules) :: m.programs.filter fun p => p.1 != program
      let m := { m with programs, calls := argv :: m.calls }
      match run.appends, pipedFile? argv with
      | some more, some path => (.ok run, m.appendTo path more)
      | _, _ => (.ok run, m)

/-- A path in a directory. -/
def inDir (dir name : String) : String :=
  if Text.endsWith dir "/" || dir.isEmpty then dir ++ name else dir ++ "/" ++ name

/-- The directory for temporary files, as the environment spells it. -/
def tempDir : Bytes := (m.env.lookup "TMPDIR").getD (Text.Utf8.encode "/tmp")

/-- A name for temporary use that is not in use yet. -/
def tempName (start finish : String) : String :=
  start ++ Text.Decimal.padded 6 m.madeUp ++ finish

/-- A path for temporary use that is not in use yet. -/
def tempPath (start finish : String) : String :=
  inDir (Text.Utf8.decode m.tempDir) (m.tempName start finish)

/-- A path from the root: that of the working directory stands before any other. -/
def absolute (path : Bytes) : Bytes :=
  if path.head? = some 0x2F then path
  else Text.Utf8.encode (inDir ("/" ++ Text.join "/" m.cwd) "") ++ path

/-- Make an empty file for temporary use; its path from the root is given even if it cannot be
made. -/
def makeTemp (start finish : String) : Except OsError Unit × Bytes × Machine :=
  let name := m.tempName start finish
  let dir := m.absolute m.tempDir
  let slash : Bytes := if dir.getLast? = some 0x2F then [] else [0x2F]
  let path := dir ++ slash ++ Text.Utf8.encode name
  match m.tree.resolve m.cwd (Text.Utf8.decode dir) with
  | .ok (p, .directory) =>
    (.ok (), path, { m with
      tree := m.tree.put (p ++ [name]) (.file []), madeUp := m.madeUp + 1 })
  | .ok (_, .file _) => (.error .notDirectory, path, m)
  | .error e => (.error e, path, m)

/-- Remove a file. -/
def remove (path : String) : Except OsError Unit × Machine :=
  match m.tree.remove m.cwd path with
  | .ok tree => (.ok (), { m with tree })
  | .error e => (.error e, m)

end Machine

end PaneRunner
