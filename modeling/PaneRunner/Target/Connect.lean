import PaneRunner.Target.Container
import PaneRunner.Target.Local
import PaneRunner.Target.Ssh

/-
  The places where a terminal multiplexer can live, and how each is reached.
-/
namespace PaneRunner

/-- Where the multiplexer lives. -/
inductive Target where
  | local
  | ssh (host : String)
  | container (name : String)
  deriving DecidableEq, Repr

/-- Reach a target. -/
def Target.connect : Target → Machine → Except Exec.Error Target.Connection × Machine
  | .local, m => (.ok Target.Local.connection, m)
  | .ssh host, m => Target.Ssh.connect host m
  | .container name, m => Target.Container.connect name m

end PaneRunner
