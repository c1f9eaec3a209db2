import PaneRunner.Config.Basic
import PaneRunner.Tmux.Error

/-
  How a command line ends: what is printed, and the exit code. A failure prints its text on the
  standard error and nothing else.
-/
namespace PaneRunner.Cli

/-- Why a command line could not be carried out. -/
inductive Failure where
  | config (e : Config.Error)
  /-- the target could not be reached -/
  | exec (e : Exec.Error)
  | tmux (e : Tmux.Error)
  /-- the output could not be written -/
  | io (reason : String)
  /-- an operand is of no use -/
  | usage (reason : String)
  deriving DecidableEq, Repr

/-- The text of a failure. -/
def Failure.message : Failure → String
  | .config e => "config: " ++ e.message
  | .exec e => "exec: " ++ e.message
  | .tmux e => e.message
  | .io reason => "io: " ++ reason
  | .usage reason => "usage: " ++ reason

/-- What a command line prints, and what it ends with. -/
structure Report where
  stdout : Bytes := []
  stderr : String := ""
  code : Int32 := 0
  deriving DecidableEq, Repr

namespace Report

/-- Something to print, and nothing else. -/
def text (s : String) : Report := { stdout := Text.Utf8.encode s }

/-- A line on the standard error. -/
def errorLine (message : String) : String := "error: " ++ message ++ "\n"

def ofFailure (f : Failure) : Report := { stderr := errorLine f.message, code := 1 }

def ofResult : Except Failure Report → Report
  | .ok r => r
  | .error f => ofFailure f

/-- What a command wrote, as it is or as JSON, ending with the command's exit code. -/
def ofOutput (json : Bool) (o : Exec.Output) : Report :=
  { stdout := if json then Text.Utf8.encode (o.json ++ "\n") else o.stdout, code := o.code }

/-- What a system that keeps eight bits makes of the exit code. -/
def status (r : Report) : Nat := (r.code.toInt % 256).toNat

end Report

end PaneRunner.Cli
