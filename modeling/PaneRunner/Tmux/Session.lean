import PaneRunner.Tmux.Settings

/-
  Sessions, by name. A session value is a name only: every question is put to the multiplexer
  anew, and a change is made only if it is needed.
-/
namespace PaneRunner.Tmux

/-- A procedure that asks an executor and may fail. -/
abbrev Action := ExceptT Error Exec.Procedure

namespace Action

/-- Put a request; its failure is the action's. -/
def ofAnswer {α : Type} (a : Exec.Procedure (Except Exec.Error α)) : Action α :=
  ExceptT.mk (a.bind fun r => .done (r.mapError .exec))

/-- Run a program. -/
def program (i : Exec.Invocation) : Action Exec.Output := ofAnswer (Plan.request (Exec.Request.run i))

/-- Go on with a value or an error that is already there. -/
def ofExcept {α : Type} (r : Except Error α) : Action α := ExceptT.mk (.done r)

/-- The outcome of an action as a value, failures included. -/
def attempt {α : Type} (a : Action α) : Action (Except Error α) := ExceptT.lift a.run

end Action

namespace Settings

/-- Run the multiplexer; a non-zero exit code is a failure. -/
def tmux (cfg : Settings) (args : List String) : Action Exec.Output :=
  Action.program { argv := cfg.binary :: args }

/-- Run the multiplexer, whatever its exit code. -/
def tmuxAny (cfg : Settings) (args : List String) : Action Exec.Output :=
  Action.program { argv := cfg.binary :: args, acceptAny := true }

/-- What the multiplexer says when there is no server to ask. -/
def saysNoServer (stderr : String) : Bool :=
  Text.contains stderr "no server running" || Text.contains stderr "error connecting to"

/-- The session names in the output of a listing: on every line, what stands before the first
colon. -/
def listedNames (o : Exec.Output) : List String :=
  o.stdoutLines.filterMap fun l => (Text.splitOnce? l ":").map Prod.fst

/-- The names of all sessions; none if no server is running. -/
def sessionNames (cfg : Settings) : Action (List String) := do
  let o ← cfg.tmuxAny ["ls"]
  if o.success then pure (listedNames o)
  else if saysNoServer o.stderrText then pure []
  else throw (.exec (.nonZeroExit (cfg.binary ++ " ls") o.code o.stdoutText o.stderrText))

/-- The multiplexer's own name and version. -/
def version (cfg : Settings) : Action String := do
  let o ← cfg.tmux ["-V"]
  pure (Text.trim o.stdoutText)

end Settings

/-- A session name that is not blank. -/
structure Session where
  name : String
  named : Text.isBlank name = false
  deriving DecidableEq

/-- A window name that is not blank, in a session. -/
structure Window where
  session : Session
  name : String
  named : Text.isBlank name = false
  deriving DecidableEq

namespace Session

/-- The session of a name. -/
def ofName (name : String) : Except Error Session :=
  if h : Text.isBlank name = false then .ok ⟨name, h⟩
  else .error (.invalidName "session name is empty")

/-- The window of a name in a session. -/
def window (s : Session) (name : String) : Except Error Window :=
  if h : Text.isBlank name = false then .ok ⟨s, name, h⟩
  else .error (.invalidName "window name is empty")

variable (cfg : Settings) (s : Session)

/-- Whether the session is there. -/
def exists? : Action Bool := do
  let names ← cfg.sessionNames
  pure (names.contains s.name)

/-- Make the session unless it is there. -/
def create : Action Unit := do
  unless ← s.exists? cfg do
    let _ ← cfg.tmux ["new-session", "-d", "-s", s.name]

/-- Remove the session and its windows unless it is gone. -/
def delete : Action Unit := do
  if ← s.exists? cfg then
    let _ ← cfg.tmux ["kill-session", "-t", s.name]

/-- Remove the session, then make it. -/
def recreate : Action Unit := do
  s.delete cfg
  s.create cfg

/-- The names of the session's windows; none if the session is not there. -/
def windowNames : Action (List String) := do
  if ← s.exists? cfg then
    let o ← cfg.tmux ["list-windows", "-t", s.name, "-F", "#\x7bwindow_name\x7d"]
    pure o.stdoutLines
  else pure []

end Session

namespace Window

/-- The window of a session name and a window name. -/
def ofNames (session name : String) : Except Error Window := do
  let s ← Session.ofName session
  s.window name

variable (cfg : Settings) (w : Window)

/-- The window as it is named in messages. -/
def address : String := w.session.name ++ ":" ++ w.name

/-- The window as it is named to the multiplexer; the equals sign asks for exactly this name. -/
def target : String := w.session.name ++ ":=" ++ w.name

/-- Whether the window is there. -/
def exists? : Action Bool := do
  let names ← w.session.windowNames cfg
  pure (names.contains w.name)

/-- Make the window, and its session too if that is missing, unless it is there. -/
def create : Action Unit := do
  unless ← w.exists? cfg do
    if ← w.session.exists? cfg then
      let _ ← cfg.tmux ["new-window", "-d", "-t", w.session.name ++ ":", "-n", w.name]
    else
      let _ ← cfg.tmux ["new-session", "-d", "-s", w.session.name, "-n", w.name]

/-- Remove the window unless it is gone. -/
def delete : Action Unit := do
  if ← w.exists? cfg then
    let _ ← cfg.tmux ["kill-window", "-t", w.target]

/-- Remove the window, then make it. -/
def recreate : Action Unit := do
  w.delete cfg
  w.create cfg

/-- Remove the window's session with all its windows. -/
def deleteSession : Action Unit := w.session.delete cfg

end Window

end PaneRunner.Tmux
