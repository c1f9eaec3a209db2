import PaneRunner.Exec.Request
import PaneRunner.Machine.Basic

/-
  Running programs on a machine. An argument vector must name a program; a program that takes as
  long as its limit is ended there.
-/
namespace PaneRunner.Target

/-- The exit code of a program that a signal has ended. -/
def signalCode : Int32 := -1

/-- What a run of a program leaves behind. -/
def outputOf (r : Machine.Run) : Exec.Output :=
  { stdout := r.stdout, stderr := r.stderr, code := r.code.getD signalCode }

/-- The limit that ends a run, if there is one. -/
def limitOf (i : Exec.Invocation) (r : Machine.Run) : Option Duration :=
  i.timeout.filter fun limit => r.takes != .zero && decide (limit ≤ r.takes)

/-- Run a program in the service of an invocation. -/
def process (program : String) (args : List String) (i : Exec.Invocation) (m : Machine) :
    Reply (Except Exec.Error Exec.Output) Machine :=
  match m.spawn program args with
  | (.error e, m) =>
    { value := .error (.executionFailed (program ++ ": " ++ e.text)), state := m }
  | (.ok r, m) =>
    match limitOf i r with
    | some limit =>
      { value := .error (.timedOut (Shell.join i.argv) limit), took := limit, state := m }
    | none =>
      { value := (outputOf r).judge i.acceptAny (Shell.join i.argv), took := r.takes, state := m }

/-- The program that an invocation names. -/
def program? (i : Exec.Invocation) : Option String := i.argv.head?.filter fun p => !Text.isBlank p

/-- Go on with an invocation that names a program. -/
def withProgram (i : Exec.Invocation) (m : Machine)
    (go : String → Reply (Except Exec.Error Exec.Output) Machine) :
    Reply (Except Exec.Error Exec.Output) Machine :=
  match program? i with
  | some p => go p
  | none => { value := .error .noProgram, state := m }

/-- A place where programs are run, once it is reached. -/
structure Connection where
  /-- what it is called -/
  summary : String
  /-- how it answers -/
  executor : Executor Exec.Answer Machine
  /-- what leaving it does -/
  close : Machine → Machine := id

end PaneRunner.Target
