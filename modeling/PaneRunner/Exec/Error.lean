import PaneRunner.Duration

/-
  How running a program can fail, and the text of each failure.
-/
namespace PaneRunner.Exec

/-- Why a program did not run, or was not taken to have run well. -/
inductive Error where
  /-- the argument vector or the target cannot be run -/
  | invalidArguments (reason : String)
  /-- the program did not start, or its files could not be handled -/
  | executionFailed (reason : String)
  /-- the program ended with a non-zero exit code -/
  | nonZeroExit (command : String) (code : Int32) (stdout stderr : String)
  /-- the program was still running at its time limit -/
  | timedOut (command : String) (limit : Duration)
  deriving DecidableEq, Repr

namespace Error

/-- An argument vector without elements. -/
def emptyArgv : Error := .invalidArguments "argv cannot be empty"

/-- An argument vector whose first element is missing or blank. -/
def noProgram : Error := .invalidArguments "command argv must start with a program name"

/-- The exit code of a program that ended. -/
def code? : Error → Option Int32
  | .nonZeroExit _ code _ _ => some code
  | _ => none

/-- `text` after a colon, unless it is empty. -/
def detail (text : String) : String := if text.isEmpty then "" else ": " ++ text

/-- The text of an error; a failed program shows its standard error or, if that is blank, its
standard output. -/
def message : Error → String
  | .invalidArguments reason => "invalid arguments: " ++ reason
  | .executionFailed reason => "execution failed: " ++ reason
  | .nonZeroExit command code stdout stderr =>
    let shown := if Text.isBlank stderr then stdout else stderr
    "`" ++ command ++ "` exited with " ++ Text.Decimal.ofInt code.toInt ++ detail (Text.trim shown)
  | .timedOut command limit => "`" ++ command ++ "` timed out after " ++ limit.render

end Error

end PaneRunner.Exec
