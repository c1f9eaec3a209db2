import PaneRunner.Exec.Output
import PaneRunner.Plan
import PaneRunner.Shell.Quoting

/-
  What is asked of the place where a terminal multiplexer lives: to run a program, and to make,
  read and remove a file next to it. An executor that can only run programs handles the files
  with `mktemp`, `cat` and `rm` (`viaPrograms`).
-/
namespace PaneRunner.Exec

/-- One program to run. -/
structure Invocation where
  /-- the program and its arguments -/
  argv : List String := []
  /-- whether a non-zero exit code is an output like any other -/
  acceptAny : Bool := false
  /-- how long the program may run -/
  timeout : Option Duration := none
  deriving DecidableEq, Repr

/-- A request to an executor. -/
inductive Request where
  | run (i : Invocation)
  | newFile
  | contents (path : String)
  | removeFile (path : String)
  deriving DecidableEq, Repr

/-- What a request is answered with. -/
abbrev Answer : Request → Type
  | .run _ => Except Error Output
  | .newFile => Except Error String
  | .contents _ => Except Error Bytes
  | .removeFile _ => Except Error Unit

/-- Procedures over executor requests. -/
abbrev Procedure := Plan Answer

/-- The lines of a file. A newline at the end of the file starts no further line, and carriage
returns stay. -/
def fileLines (content : Bytes) : List Bytes :=
  if content = [] then []
  else Text.pieces 10 (if content.getLast? = some 10 then content.dropLast else content)

/-- The invocation that makes an empty file and prints its path. -/
def mktemp : Invocation := { argv := ["mktemp", "-t", "tmuxdrive-capture.XXXXXXXXXX"] }

/-- The path that `mktemp` printed. -/
def printedPath (o : Output) : Except Error String :=
  let path := Text.trim o.stdoutText
  if path.isEmpty then .error (.executionFailed "mktemp returned an empty path") else .ok path

/-- An executor from the running of programs alone. -/
def viaPrograms {σ : Type} (run : Invocation → σ → Reply (Except Error Output) σ) :
    Executor Answer σ
  | .run i, s => run i s
  | .newFile, s => (run mktemp s).map fun o => o.bind printedPath
  | .contents path, s =>
    (run { argv := ["cat", "--", path] } s).map fun o => o.map Output.stdout
  | .removeFile path, s =>
    (run { argv := ["rm", "-f", "--", path] } s).map fun o => o.map fun _ => ()

end PaneRunner.Exec
