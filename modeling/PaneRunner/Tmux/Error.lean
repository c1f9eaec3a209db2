import PaneRunner.Exec.Output

/-
  How driving a terminal multiplexer can fail, and the text of each failure.
-/
namespace PaneRunner.Tmux

/-- Why an operation on sessions and windows failed. -/
inductive Error where
  /-- a session or window name that no session or window can have -/
  | invalidName (reason : String)
  /-- a program or file request failed -/
  | exec (e : Exec.Error)
  /-- the last line of the window never was an idle prompt -/
  | promptNotReady (window : String) (attempts : Nat)
  /-- a wait for output ran past its limit -/
  | timeout (window pattern : String) (elapsed : Duration)
  /-- the capture file does not have the layout of a finished command -/
  | captureFormat (reason : String)
  /-- the end marker line carries no exit code -/
  | exitCodeParse (line : String)
  /-- the command in the window ended with a non-zero exit code -/
  | commandFailed (window command : String) (code : Int32) (stdout : Bytes)
  deriving DecidableEq, Repr

namespace Error

def isPromptNotReady : Error → Bool
  | .promptNotReady .. => true
  | _ => false

def isTimeout : Error → Bool
  | .timeout .. => true
  | _ => false

/-- The failure beneath, if the error wraps one. -/
def source? : Error → Option Exec.Error
  | .exec e => some e
  | _ => none

/-- What is said of a command that failed, without its output. -/
def failureText (window command : String) (code : Int32) : String :=
  "`" ++ command ++ "` in tmux window '" ++ window ++ "' exited with " ++
    Text.Decimal.ofInt code.toInt

/-- The text of an error. -/
def message : Error → String
  | .invalidName reason => "invalid tmux name: " ++ reason
  | .exec e => "tmux: " ++ e.message
  | .promptNotReady window attempts =>
    "tmux window '" ++ window ++ "' cli prompt not ready after " ++
      Text.Decimal.ofNat attempts ++ " attempts"
  | .timeout window pattern elapsed =>
    "timed out after " ++ elapsed.render ++ " waiting for tmux window '" ++ window ++
      "' output to match `" ++ pattern ++ "`"
  | .captureFormat reason => "unexpected tmux capture format: " ++ reason
  | .exitCodeParse line => "failed to parse exit code from end marker line `" ++ line ++ "`"
  | .commandFailed window command code stdout =>
    failureText window command code ++ Exec.Error.detail (Text.trim (Text.Utf8.decode stdout))

end Error

end PaneRunner.Tmux
