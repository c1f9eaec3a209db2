import PaneRunner.Regex.Escape
import PaneRunner.Tmux.View

/-
  Running a command in a window. The window is made if it is missing, and must show an idle
  prompt. Then a file is made, the window's output is piped into it, the command line is typed
  with the end marker after it, and once the marker shows the pipe is closed and the file taken
  apart. From the making of the file on, its removal is the last request whatever happens; from
  the opening of the pipe on, the pipe is closed whatever happens.
-/
namespace PaneRunner.Tmux

/-- The lines of a file next to the multiplexer. -/
def fileLines (path : String) : Action (List Bytes) := do
  let content ← Action.ofAnswer (Plan.request (Exec.Request.contents path))
  pure (Exec.fileLines content)

/-- The lines of the capture file once they hold the end marker. When the wait gives up they are
read once more as they are. -/
def Settings.captureLines (cfg : Settings) (path : String) : Action (List Bytes) :=
  Action.pollOn cfg.captureFlush (.contents path) (fun a => a)
    (fun content =>
      let ls := Exec.fileLines content
      if holdsMarker ls cfg.marker then some ls else none)
    (fun _ => fileLines path)

namespace Window

variable (cfg : Settings) (w : Window)

/-- Wait until the end marker is one of the last two lines shown. -/
def awaitMarker : Action Unit :=
  w.pollScreen cfg cfg.commandCompletion
    (fun raw => if showsMarker (shownLines raw) cfg.marker then some () else none)
    (fun rep => throw (.timeout w.address ("^" ++ Regex.escape cfg.marker) rep.elapsed))

/-- Type the command line, and wait for its end. -/
def typeAndAwait (argv : List String) : Action Unit := do
  w.sendKeys cfg [commandLine argv cfg.marker, "enter"]
  w.awaitMarker cfg

/-- Whether a capture is the outcome of a command that went well, or well enough for a caller
that accepts every exit code. -/
def judge (argv : List String) (acceptAny : Bool) (c : Capture) : Except Error Exec.Output :=
  if c.code ≠ 0 ∧ acceptAny = false then
    .error (.commandFailed w.address (Shell.join argv) c.code c.stdout)
  else .ok { stdout := c.stdout, code := c.code }

/-- Run the command with its output piped into the file. -/
def runInto (path : String) (argv : List String) (acceptAny : Bool) : Action Exec.Output := do
  let _ ← cfg.tmux ["pipe-pane", "-t", w.target, appendTo path]
  let waited ← (w.typeAndAwait cfg argv).attempt
  let stopped ← (cfg.tmux ["pipe-pane", "-t", w.target, ""]).attempt
  Action.ofExcept waited
  let _ ← Action.ofExcept stopped
  let ls ← cfg.captureLines path
  let c ← Action.ofExcept (readCapture ls cfg.marker)
  Action.ofExcept (w.judge argv acceptAny c)

/-- Run a command in the window. Its standard error is part of the output that comes back,
because a terminal does not tell the two apart. -/
def run (argv : List String) (acceptAny : Bool) : Action Exec.Output := do
  if argv.isEmpty then throw (.exec .emptyArgv)
  w.create cfg
  w.awaitPrompt cfg
  let path ← Action.ofAnswer (Plan.request Exec.Request.newFile)
  let result ← (w.runInto cfg path argv acceptAny).attempt
  let _ ← (Action.ofAnswer (Plan.request (Exec.Request.removeFile path))).attempt
  Action.ofExcept result

end Window

end PaneRunner.Tmux
