import PaneRunner.Cli.Args
import PaneRunner.Cli.Report
import PaneRunner.Tmux.Match
import PaneRunner.Tmux.Run

/-
  The commands as procedures that end in a report.
-/
namespace PaneRunner.Cli

/-- A procedure that asks an executor and may fail. -/
abbrev Task := ExceptT Failure Exec.Procedure

namespace Task

/-- An action on sessions and windows as a task. -/
def ofAction {α : Type} (a : Tmux.Action α) : Task α :=
  ExceptT.mk (a.run.bind fun r => .done (r.mapError .tmux))

/-- Go on with a value or an error that is already there. -/
def ofExcept {α : Type} (r : Except Failure α) : Task α := ExceptT.mk (.done r)

/-- The session of a name. -/
def session (name : String) : Task Tmux.Session := ofAction (.ofExcept (Tmux.Session.ofName name))

/-- The window of a session name and a window name. -/
def window (session name : String) : Task Tmux.Window :=
  ofAction (.ofExcept (Tmux.Window.ofNames session name))

end Task

variable (cfg : Tmux.Settings)

/-- Do something to a window or, where no window is named, to a session. -/
def onEither (session : String) (name : Option String)
    (onWindow : Tmux.Window → Tmux.Action Unit) (onSession : Tmux.Session → Tmux.Action Unit) :
    Task Report := do
  match name with
  | some name => Task.ofAction (onWindow (← Task.window session name))
  | none => Task.ofAction (onSession (← Task.session session))
  pure {}

/-- What a window shows: its last lines, or everything. -/
def viewed (w : Tmux.Window) : Option Nat → Task Report
  | some n => do pure (.text (Text.unlines (Tmux.lastLines (← Task.ofAction (w.lines cfg)) n)))
  | none => do pure (.text (← Task.ofAction (w.shownOutput cfg)))

/-- The regular expression of an operand. -/
def readRegex (source : String) : Except Failure Regex :=
  (Regex.ofString source).mapError fun e =>
    .usage ("invalid regex `" ++ source ++ "`: " ++ e.message)

/-- The end of a run. Of a command that failed, what it wrote is printed all the same. -/
def runReport (json : Bool) : Except Tmux.Error Exec.Output → Except Failure Report
  | .ok o => .ok (.ofOutput json o)
  | .error (.commandFailed window command code stdout) =>
    .ok { Report.ofOutput json { stdout, code } with
      stderr := Report.errorLine (Tmux.Error.failureText window command code) }
  | .error e => .error (.tmux e)

/-- Run a command in a window, and end with its exit code. -/
def runInWindow (w : Tmux.Window) (argv : List String) (acceptAny json : Bool) : Task Report :=
  ExceptT.mk ((w.run cfg argv acceptAny).run.bind fun r => .done (runReport json r))

/-- A command as a task. -/
def Command.task : Command → Task Report
  | .sessions => do pure (.text (Text.unlines (← Task.ofAction cfg.sessionNames)))
  | .windows session => do
    let s ← Task.session session
    pure (.text (Text.unlines (← Task.ofAction (s.windowNames cfg))))
  | .create session window => onEither session window (·.create cfg) (·.create cfg)
  | .delete session window => onEither session window (·.delete cfg) (·.delete cfg)
  | .recreate session window => onEither session window (·.recreate cfg) (·.recreate cfg)
  | .view session window lines => do viewed cfg (← Task.window session window) lines
  | .sendKeys session window tokens => do
    Task.ofAction ((← Task.window session window).sendKeys cfg tokens)
    pure {}
  | .waitFor session window regex timeout => do
    let r ← Task.ofExcept (readRegex regex)
    Task.ofAction ((← Task.window session window).awaitMatch cfg r timeout)
    pure {}
  | .run session window acceptAny json argv => do
    runInWindow cfg (← Task.window session window) argv acceptAny json

/-- A command, once the multiplexer has told its version: without a multiplexer there is nothing
to do. -/
def Command.perform (c : Command) : Task Report := do
  let _ ← Task.ofAction cfg.version
  c.task cfg

end PaneRunner.Cli
