import PaneRunner.Target.Process

/-
  A remote host over one `ssh` connection that stays open. The remote shell reads every command
  line again, so arguments are quoted for it. The connection is closed in the end whatever
  happened.
-/
namespace PaneRunner.Target.Ssh

/-- The arguments that open the connection. -/
def openArgs (host control : String) : List String :=
  ["-MNf", "-o", "ControlMaster=yes", "-o", "ControlPersist=yes", "-o", "ControlPath=" ++ control,
    host]

/-- The arguments that run a command line through the connection. -/
def runArgs (host control line : String) : List String :=
  ["-T", "-S", control, "-o", "ControlMaster=no", host, line]

/-- The arguments that close the connection. -/
def closeArgs (host control : String) : List String := ["-S", control, "-O", "exit", host]

/-- Run an invocation on the host. -/
def run (host control : String) (i : Exec.Invocation) (m : Machine) :
    Reply (Except Exec.Error Exec.Output) Machine :=
  withProgram i m fun _ => process "ssh" (runArgs host control (Shell.join i.argv)) i m

/-- Close the connection. -/
def close (host control : String) (m : Machine) : Machine :=
  (((m.spawn "ssh" (closeArgs host control)).2).remove control).2

/-- An open connection. -/
def connection (host control : String) : Connection :=
  { summary := "ssh:" ++ host
    executor := Exec.viaPrograms (run host control)
    close := close host control }

/-- What is said of a connection that could not be opened. -/
def openFailure (e : Exec.Error) : Exec.Error :=
  .executionFailed ("failed to open persistent ssh connection: " ++ e.message)

/-- Open the connection to a host. -/
def connect (host : String) (m : Machine) : Except Exec.Error Connection × Machine :=
  if Text.isBlank host then (.error (.invalidArguments "ssh target cannot be empty"), m)
  else
    let control := m.tempPath "tmuxdrive-ssh-" ".sock"
    let r := process "ssh" (openArgs host control) { acceptAny := true }
      { m with madeUp := m.madeUp + 1 }
    match r.value with
    | .error e => (.error e, r.state)
    | .ok o => (match o.check "ssh -MNf" with
      | .ok _ => .ok (connection host control)
      | .error e => .error (openFailure e), r.state)

end PaneRunner.Target.Ssh
