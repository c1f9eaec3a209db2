import PaneRunner.Target.Process
import PaneRunner.Text.Quoted

/-
  The machine itself. Programs are run directly, and files are handled without any program.
-/
namespace PaneRunner.Target.Local

/-- Run an invocation. -/
def run (i : Exec.Invocation) (m : Machine) : Reply (Except Exec.Error Exec.Output) Machine :=
  withProgram i m fun p => process p (i.argv.drop 1) i m

/-- Make an empty capture file. -/
def newFile (m : Machine) : Reply (Except Exec.Error String) Machine :=
  match m.makeTemp "tmuxdrive-capture-" ".log" with
  | (.ok _, path, m) => { value := .ok (Text.Utf8.decode path), state := m }
  | (.error e, path, m) =>
    { value := .error (.executionFailed
        ("failed to create temp file: " ++ e.text ++ " at path " ++ Text.Quoted.ofBytes path))
      state := m }

/-- The content of a file. -/
def contents (path : String) (m : Machine) : Reply (Except Exec.Error Bytes) Machine :=
  let failure (e : Machine.OsError) : Exec.Error :=
    .executionFailed ("failed to read " ++ path ++ ": " ++ e.text)
  { value := (m.read path).mapError failure, state := m }

/-- Remove a file; one that is not there counts as removed. -/
def removeFile (path : String) (m : Machine) : Reply (Except Exec.Error Unit) Machine :=
  match m.remove path with
  | (.ok _, m) | (.error .notFound, m) => { value := .ok (), state := m }
  | (.error e, m) =>
    { value := .error (.executionFailed ("failed to remove " ++ path ++ ": " ++ e.text))
      state := m }

/-- The machine as an executor. -/
def executor : Executor Exec.Answer Machine
  | .run i, m => run i m
  | .newFile, m => newFile m
  | .contents path, m => contents path m
  | .removeFile path, m => removeFile path m

def connection : Connection := { summary := "local", executor }

end PaneRunner.Target.Local
