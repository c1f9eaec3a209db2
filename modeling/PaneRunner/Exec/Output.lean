import PaneRunner.Exec.Error
import PaneRunner.Text.Json
import PaneRunner.Text.Utf8

/-
  What a program run leaves behind. `check` accepts exactly the outputs with exit code zero.
-/
namespace PaneRunner.Exec

/-- What a program wrote, and the exit code it ended with. -/
structure Output where
  stdout : Bytes := []
  stderr : Bytes := []
  code : Int32 := 0
  deriving DecidableEq, Repr

namespace Output

def stdoutText (o : Output) : String := Text.Utf8.decode o.stdout

def stderrText (o : Output) : String := Text.Utf8.decode o.stderr

/-- The lines of the standard output. -/
def stdoutLines (o : Output) : List String := Text.lines o.stdoutText

def success (o : Output) : Bool := o.code == 0

/-- An output is accepted if its exit code is zero, and is an error of `command` otherwise. -/
def check (o : Output) (command : String) : Except Error Output :=
  if o.success then .ok o else .error (.nonZeroExit command o.code o.stdoutText o.stderrText)

/-- An output under the caller's choice to accept every exit code or zero alone. -/
def judge (o : Output) (acceptAny : Bool) (command : String) : Except Error Output :=
  if acceptAny then .ok o else o.check command

/-- The JSON object of an output; bytes that are no text are replaced. -/
def json (o : Output) : String :=
  Text.Json.object [
    ("stdout", Text.Json.quote o.stdoutText),
    ("stderr", Text.Json.quote o.stderrText),
    ("exit_code", Text.Decimal.ofInt o.code.toInt)]

end Output

end PaneRunner.Exec
